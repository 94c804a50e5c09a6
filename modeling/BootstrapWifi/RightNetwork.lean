import BootstrapWifi.DestinationMode
import BootstrapWifi.LinkMove
import BootstrapWifi.Newest
import BootstrapWifi.StoredBlobs

namespace BootstrapWifi

open Mealy

variable {L : Layout} {now : Time} {conn : ConnectState} {s t : Instance} {d : Device} {e : Event}
  {m : LibraryMove} {h : List LibraryMove} {l : Link} {acts : List Action}

/-- Name and password of the network that a mode is about. -/
def Instance.networkOf (s : Instance) (mode : BstState) :
    Option (List UInt8) × Option (List UInt8) :=
  if mode.isDestination then (s.ssidString, s.pwdString)
  else (s.bootstrapSsidString, s.options.bootstrapKey.map (·.bytes))

def Instance.network (s : Instance) : Option (List UInt8) × Option (List UInt8) :=
  s.networkOf s.state.state

def OnlyConnectsTo (network : Option (List UInt8) × Option (List UInt8)) (acts : List Action) :
    Prop :=
  ∀ a ∈ acts, a.isConnectToWifi = true → a = .connectToWifi network.1 network.2

/-- The platform is asked to connect, and to `network` only. -/
structure ConnectsTo (network : Option (List UInt8) × Option (List UInt8)) (acts : List Action) :
    Prop where
  asked : ∃ a ∈ acts, a.isConnectToWifi = true
  only : OnlyConnectsTo network acts

theorem connectsTo_append {network : Option (List UInt8) × Option (List UInt8)}
    (before : List Action) (hb : ∀ a ∈ before, a.isConnectToWifi = false)
    (h : ConnectsTo network acts) : ConnectsTo network (before ++ acts) where
  asked := by
    obtain ⟨a, ha, hc⟩ := h.asked
    exact ⟨a, List.mem_append_right _ ha, hc⟩
  only := by
    intro a ha hc
    rcases List.mem_append.mp ha with ha | ha
    · rw [hb a ha] at hc
      cases hc
    · exact h.only a ha hc

theorem connectsTo_singleton (network : Option (List UInt8) × Option (List UInt8)) :
    ConnectsTo network [.connectToWifi network.1 network.2] where
  asked := ⟨_, List.mem_singleton_self _, rfl⟩
  only := fun _ ha _ ↦ List.mem_singleton.mp ha

theorem enterBootstrap_connects (s : Instance) :
    ConnectsTo (s.networkOf .connectingToBootstrap) s.enterBootstrapActions :=
  connectsTo_append [.enterWaitForBootstrapMode] (List.forall_mem_singleton.mpr rfl)
    (connectsTo_singleton _)

theorem enterDestination_connects (s : Instance) :
    ConnectsTo (s.networkOf .connectingToDest) s.enterDestinationActions :=
  connectsTo_append [.enterBootstrappedMode] (List.forall_mem_singleton.mpr rfl)
    (connectsTo_singleton _)

/-- A poll asks for the network of the mode it leaves behind, or it asks for none and stays
with the network. -/
theorem LinkStep.network (hl : LinkStep now conn s l acts) :
    ConnectsTo (s.networkOf l.mode) acts ∨
      (∀ a ∈ acts, a.isConnectToWifi = false) ∧
        l.mode.isDestination = s.state.state.isDestination ∧
        (l.mode = .uninitialized ↔ s.state.state = .uninitialized) := by
  have hgreet : ∀ a ∈ s.greeting, a.isConnectToWifi = false := fun a ha ↦ (greeting_only a ha).1
  have hnone : ∀ a ∈ ([] : List Action), a.isConnectToWifi = false := List.forall_mem_nil _
  have hadv : ∀ a ∈ [Action.connectAdvanced s.additionalString], a.isConnectToWifi = false :=
    List.forall_mem_singleton.mpr rfl
  cases hl with
  | off => exact .inr ⟨hnone, rfl, Iff.rfl⟩
  | bootstrapWait => exact .inr ⟨hnone, rfl, Iff.rfl⟩
  | bootstrapRetry => exact .inl (connectsTo_singleton (s.networkOf .connectingToBootstrap))
  | bootstrapQuit => exact .inl (enterDestination_connects s)
  | greetAgain => exact .inr ⟨hgreet, rfl, Iff.rfl⟩
  | dataWait hb =>
    have hd := BstState.isDestination_of_isBootstrap hb
    exact .inr ⟨hgreet, hd.symm, iff_of_false nofun fun hu ↦ by rw [hu] at hb; cases hb⟩
  | dataRearm hb =>
    have hd := BstState.isDestination_of_isBootstrap hb
    exact .inr ⟨hgreet, hd.symm, iff_of_false nofun fun hu ↦ by rw [hu] at hb; cases hb⟩
  | dataQuit => exact .inl (connectsTo_append _ hgreet (enterDestination_connects s))
  | dataLost hm => exact .inr ⟨hnone, by rw [hm]; rfl, by simp [hm]⟩
  | destWait => exact .inr ⟨hnone, rfl, Iff.rfl⟩
  | destRetry => exact .inl (connectsTo_singleton (s.networkOf .connectingToDest))
  | destQuit => exact .inl (enterBootstrap_connects s)
  | destFailed => exact .inl (enterBootstrap_connects s)
  | associated hm => exact .inr ⟨hnone, by rw [hm]; rfl, by simp [hm]⟩
  | associatedAdvanced hm => exact .inr ⟨hnone, by rw [hm]; rfl, by simp [hm]⟩
  | associatedTry hm => exact .inr ⟨hadv, by rw [hm]; rfl, by simp [hm]⟩
  | online => exact .inr ⟨hnone, rfl, Iff.rfl⟩
  | advancedTry hm => exact .inr ⟨hadv, by rw [hm], by simp [hm]⟩
  | advancedQuit => exact .inl (enterBootstrap_connects s)
  | destLost hm => exact .inr ⟨hnone, by rw [hm]; rfl, by simp [hm]⟩

theorem networkOf_congr (hc : t.credentials = s.credentials) (ho : t.options = s.options)
    (mode : BstState) : t.networkOf mode = s.networkOf mode := by
  obtain ⟨hssid, hpwd, -⟩ := strings_of_credentials hc
  rw [Instance.networkOf, Instance.networkOf, hssid, hpwd, Instance.bootstrapSsidString, ho]
  rfl

theorem networkOf_group {mode mode' : BstState} (hm : mode.isDestination = mode'.isDestination) :
    s.networkOf mode = s.networkOf mode' := by
  rw [Instance.networkOf, Instance.networkOf, hm]

/-- What a move makes of the network the device is after. -/
inductive NetworkMove (m : LibraryMove) : Prop
  | stopped : m.post.inst.state.state = .uninitialized → NetworkMove m
  | asked : ConnectsTo m.post.inst.network m.output → NetworkMove m
  | kept : (∀ a ∈ m.output, a.isConnectToWifi = false) →
      m.post.inst.network = m.pre.inst.network →
      (m.post.inst.state.state = .uninitialized ↔ m.pre.inst.state.state = .uninitialized) →
      NetworkMove m

theorem setup_networkMove {o : Options} {data key : List UInt8}
    (hfit : SetupContained o data key)
    (hpost : m.post.inst = (bstSetup L now o data key).1)
    (hout : m.output = (bstSetup L now o data key).2) : NetworkMove m := by
  have heff := bstSetup_effect L now o data key
  generalize bstSetup L now o data key = r at heff hpost hout
  cases heff with
  | bootstrapped =>
    refine .asked ?_
    rw [hpost, hout]
    exact enterDestination_connects _
  | waiting =>
    refine .asked ?_
    rw [hpost, hout]
    exact enterBootstrap_connects _
  | idle hs hb =>
    refine .stopped ?_
    rw [hpost, (loaded_of_idle L hfit hs hb).1]
    rfl

theorem periodic_networkMove (hpost : m.post.inst = (bstPeriodic L now conn m.pre.inst).1)
    (hout : m.output = (bstPeriodic L now conn m.pre.inst).2) : NetworkMove m := by
  have heff := bstPeriodic_effect L now conn m.pre.inst
  by_cases hp : m.pre.inst.Polls
  · have hstep := poll_link now conn m.pre.inst
    obtain ⟨hcred, -, hopt⟩ := heff.same_data fun h ↦ by
      rw [hp.factoryReset] at h
      cases h.2
    rw [← hp.periodic L] at hstep
    rw [← hpost] at hcred hopt hstep
    rw [← hout] at hstep
    have hnetwork : m.post.inst.network = m.pre.inst.networkOf m.post.inst.link.mode :=
      networkOf_congr hcred hopt _
    rcases hstep.network with hasked | ⟨hnone, hgroup, hoff⟩
    · refine .asked ?_
      rwa [hnetwork]
    · exact .kept hnone (hnetwork.trans (networkOf_group hgroup)) hoff
  · generalize bstPeriodic L now conn m.pre.inst = r at heff hpost hout
    cases heff with
    | off => exact .kept (by simp [hout]) (by rw [hpost]) (by rw [hpost])
    | factoryReset ho =>
      refine .asked ?_
      rw [serveFactoryReset_eq L ho] at hpost hout
      have hnetwork : m.post.inst.network = m.pre.inst.networkOf .connectingToBootstrap := by
        have hopt : m.post.inst.options = m.pre.inst.options := by
          rw [hpost]
          exact loaded_options
        have hmode : m.post.inst.state.state = .connectingToBootstrap := by
          rw [hpost]
          rfl
        rw [Instance.network, hmode, Instance.networkOf, Instance.networkOf,
          Instance.bootstrapSsidString, hopt]
        rfl
      rw [hnetwork, hout]
      exact connectsTo_append [.storeBootstrapData [], .storeCryptoSecret []]
        (by simp [Action.isConnectToWifi]) (enterBootstrap_connects m.pre.inst)
    | bind =>
      refine .kept ?_ ?_ ?_
      · rw [hout]
        simp [serveBind, Action.isConnectToWifi]
      · rw [hpost]
        rfl
      · rw [hpost]
        exact Iff.rfl
    | wifiList =>
      refine .kept ?_ ?_ ?_
      · rw [hout]
        exact List.forall_mem_singleton.mpr rfl
      · rw [hpost]
        rfl
      · rw [hpost]
    | setWifi =>
      refine .asked ?_
      rw [hpost, hout]
      exact connectsTo_append [.sendMessage .bootstrapOk, .storeBootstrapData _]
        (by simp [Action.isConnectToWifi]) (enterDestination_connects _)
    | poll ho hf hb hl hw => exact absurd ⟨ho, hf, hb, hl, hw⟩ hp

theorem InputEffect.network {random : UInt64} {data : List UInt8}
    (heff : InputEffect L now random data s t)
    (hfit : ∀ pkt, BindAccepted L now data pkt s → (newBindKeyLen pkt).toNat ≤ bindkeyMaxSize) :
    t.network = s.network := by
  have hmode : t.state.state = s.state.state := congrArg Link.mode (heff.link hfit)
  rw [Instance.network, Instance.network, hmode]
  rcases heff.credentials with hcred | ⟨pkt, hset, -⟩
  · exact networkOf_congr hcred heff.options _
  · -- New credentials come while the device is on the bootstrap network.
    have hwait : s.state.state.isDestination = false := by
      rw [hset.1.1]
      rfl
    rw [Instance.networkOf, Instance.networkOf, hwait, Instance.bootstrapSsidString, heff.options]
    rfl

theorem networkMove (d : Device) (e : Event) (hfit : Contained L ((library L).move d e)) :
    NetworkMove ((library L).move d e) := by
  obtain ⟨now, call⟩ := e
  cases call with
  | setup o data key => exact setup_networkMove (hfit.1 o data key rfl) rfl rfl
  | periodic conn => exact periodic_networkMove (L := L) rfl rfl
  | networkInput data random =>
    have heff := networkInput_effect L now random data d.inst
    have hbind (pkt : List UInt8) := hfit.2 data random pkt rfl
    have hmode := congrArg Link.mode (heff.link hbind)
    exact .kept (List.forall_mem_nil _) (heff.network hbind) (Iff.of_eq (congrArg (· = _) hmode))
  | wifiNetworkList list =>
    have hout : ∀ a ∈ bstWifiNetworkList L list d.inst, a.isConnectToWifi = false :=
      wifiNetworkList_only fun _ ↦ rfl
    exact .kept hout rfl Iff.rfl
  | setErrorMessage => exact .kept (List.forall_mem_nil _) rfl Iff.rfl
  | factoryReset => exact .kept (List.forall_mem_nil _) rfl Iff.rfl
  | confirmBootstrap => exact .kept (List.forall_mem_nil _) rfl Iff.rfl

/-- The network that the platform was last told to connect to is the one that the mode is
about, under the name and the password that are stored now. -/
theorem connects_to_mode_network (r : (library L).Run .off h d) (hfit : ∀ m ∈ h, Contained L m)
    (hon : d.inst.state.state ≠ .uninitialized) :
    Newest CallsConnectToWifi (fun m ↦ OnlyConnectsTo d.inst.network m.output) h := by
  refine r.moves_invariant (G := Contained L)
    (P := fun h d ↦ d.inst.state.state ≠ .uninitialized →
      Newest CallsConnectToWifi (fun m ↦ OnlyConnectsTo d.inst.network m.output) h)
    (absurd rfl) ?_ hfit hon
  intro h d e ih hfit hon
  cases networkMove d e hfit with
  | stopped hoff => exact absurd hoff hon
  | asked hto =>
    have hcalls : CallsConnectToWifi ((library L).move d e) := hto.asked
    exact (newest_cons_of hcalls).mpr hto.only
  | kept hnone hnetwork hoff =>
    have hquiet : ¬ CallsConnectToWifi ((library L).move d e) := by
      intro hcalls
      obtain ⟨a, ha, hc⟩ := hcalls
      rw [hnone a ha] at hc
      cases hc
    rw [move_post, move_pre] at hnetwork hoff
    rw [newest_cons_of_not hquiet, hnetwork]
    exact ih fun h ↦ hon (hoff.mpr h)

/-- Once told of a home network the device is sent there. -/
theorem sample_connects_to_mode_network :
    Newest CallsConnectToWifi
      (fun m ↦ OnlyConnectsTo (sampleExecuted [97, 0, 98]).post.inst.network m.output)
      (sampleSession [97, 0, 98]) :=
  connects_to_mode_network (run_sampleSession [97, 0, 98])
    (fun m hm ↦ ⟨(sampleSession_setupReady _ m hm).fits, sampleSession_bindFits _ m hm⟩)
    (by simp [sampleExecuted, (executesSetData_post (sampleExecuted_executes [97, 0, 98])).2])

end BootstrapWifi
