import BootstrapWifi.Link
import BootstrapWifi.SessionGate

namespace BootstrapWifi

open Mealy

variable {L : Layout} {now : Time} {conn : ConnectState} {s t : Instance} {d : Device} {e : Event}
  {m : LibraryMove}

/-- Clock readings never decrease. -/
def ClockMono (h : List LibraryMove) : Prop :=
  h.Pairwise fun later earlier ↦ earlier.input.now ≤ later.input.now

instance : Decidable s.Polls :=
  decidable_of_iff
    ((s.options.bootstrapSsid.isSome ∧ s.options.initialCryptoSecret.isSome) ∧
      s.flags.requestFactoryReset = false ∧ s.flags.requestBind = false ∧
      s.flags.requestWifiList = false ∧ s.flags.requestSetWifi = false)
    ⟨fun h ↦ ⟨h.1, h.2.1, h.2.2.1, h.2.2.2.1, h.2.2.2.2⟩,
      fun h ↦ ⟨h.ready, h.factoryReset, h.bind, h.wifiList, h.setWifi⟩⟩

/-- The connection state that a call of `bst_periodic` sees, if it gets that far. -/
def seen (m : LibraryMove) : Option ConnectState :=
  match m.input.call with
  | .periodic conn => if m.pre.inst.Polls then some conn else none
  | _ => none

theorem seen_eq_some :
    seen m = some conn ↔ m.input.call = .periodic conn ∧ m.pre.inst.Polls := by
  unfold seen
  split
  next c hc =>
    rw [hc, Call.periodic.injEq, Option.ite_none_right_eq_some, Option.some.injEq]
    exact and_comm
  next hc => exact iff_of_false nofun fun h ↦ hc conn h.1

theorem seen_eq_none_of_call (hc : ∀ conn, m.input.call ≠ .periodic conn) : seen m = none :=
  Option.eq_none_iff_forall_ne_some.mpr fun conn h ↦ hc conn (seen_eq_some.mp h).1

theorem seen_eq_none_of_request (hp : ¬ m.pre.inst.Polls) : seen m = none :=
  Option.eq_none_iff_forall_ne_some.mpr fun _ h ↦ hp (seen_eq_some.mp h).2

theorem move_of_seen (hs : seen m = some conn) (he : m = (library L).move m.pre m.input) :
    m.post.inst = (poll m.input.now conn m.pre.inst).1 ∧
      m.output = (poll m.input.now conn m.pre.inst).2 := by
  obtain ⟨hc, hp⟩ := seen_eq_some.mp hs
  rw [he, move_post, move_output, step_periodic L hc, hp.periodic L]
  exact ⟨rfl, rfl⟩

def Action.isConnectToWifi : Action → Bool
  | .connectToWifi .. => true
  | _ => false

def Action.isConnectAdvanced : Action → Bool
  | .connectAdvanced _ => true
  | _ => false

/-- The callback for a new connection to the bootstrap network, and the HELLO message that
goes with it. -/
def Action.isAnnouncement : Action → Bool
  | .connectedToBootstrapNetwork | .sendMessage .hello => true
  | _ => false

def CallsConnectToWifi (m : LibraryMove) : Prop := ∃ a ∈ m.output, a.isConnectToWifi

def CallsConnectAdvanced (m : LibraryMove) : Prop := ∃ a ∈ m.output, a.isConnectAdvanced

def Announces (m : LibraryMove) : Prop := ∃ a ∈ m.output, a.isAnnouncement

instance : Decidable (CallsConnectToWifi m) := inferInstanceAs (Decidable (∃ _ ∈ _, _))

instance (a : Action) : Decidable a.EntersMode :=
  decidable_of_iff (a = .enterWaitForBootstrapMode ∨ a = .enterBootstrappedMode)
    (by cases a <;> simp [Action.EntersMode])

instance : (c : Call) → Decidable c.IsSetup
  | .setup .. => .isTrue trivial
  | .periodic _ | .networkInput .. | .wifiNetworkList _ | .setErrorMessage _ | .factoryReset
  | .confirmBootstrap => .isFalse id

instance : Decidable (Resets m) := inferInstanceAs (Decidable (_ ∨ ∃ _ ∈ _, _))

theorem calls_iff {p : Action → Bool} {acts : List Action} (hout : m.output = acts) :
    (∃ a ∈ m.output, p a) ↔ acts.countP p ≠ 0 := by
  rw [hout, ← Nat.pos_iff_ne_zero, List.countP_pos_iff]

theorem resets_iff_of_seen (hs : seen m = some conn) : Resets m ↔ ∃ a ∈ m.output, a.EntersMode := by
  have hc : ¬ m.input.call.IsSetup := by
    rw [(seen_eq_some.mp hs).1]
    exact id
  exact or_iff_right hc

theorem not_resets_of_seen {acts : List Action} (hs : seen m = some conn) (hout : m.output = acts)
    (hacts : ∀ a ∈ acts, ¬ a.EntersMode) : ¬ Resets m := by
  rw [resets_iff_of_seen hs, hout]
  rintro ⟨a, ha, henters⟩
  exact hacts a ha henters

theorem greeting_only : ∀ a ∈ s.greeting, a.isConnectToWifi = false ∧ ¬ a.EntersMode := by
  intro a ha
  unfold Instance.greeting at ha
  split at ha
  · rcases List.mem_cons.mp ha with rfl | ha
    · exact ⟨rfl, id⟩
    · rw [List.mem_singleton.mp ha]
      exact ⟨rfl, id⟩
  · cases ha

/-- How often connections are asked for, and how often one is announced. -/
structure CallCounts where
  connectToWifi : ℕ
  connectAdvanced : ℕ
  announcements : ℕ
deriving DecidableEq

def callCounts (acts : List Action) : CallCounts :=
  ⟨acts.countP Action.isConnectToWifi, acts.countP Action.isConnectAdvanced,
    acts.countP Action.isAnnouncement⟩

def Action.modeEntered : Action → Option BstState
  | .enterWaitForBootstrapMode => some .connectingToBootstrap
  | .enterBootstrappedMode => some .connectingToDest
  | _ => none

theorem Action.modeEntered_eq_some {a : Action} {mode : BstState} :
    a.modeEntered = some mode ↔
      a = .enterWaitForBootstrapMode ∧ mode = .connectingToBootstrap ∨
        a = .enterBootstrappedMode ∧ mode = .connectingToDest := by
  cases a <;> simp [Action.modeEntered, eq_comm]

theorem modeEntered_unique {acts : List Action} {mode mode' : BstState} {a : Action}
    (hacts : acts.filterMap Action.modeEntered = [mode]) (ha : a ∈ acts)
    (hmode : a.modeEntered = some mode') : mode' = mode := by
  have hmem : mode' ∈ acts.filterMap Action.modeEntered := List.mem_filterMap.mpr ⟨a, ha, hmode⟩
  rwa [hacts, List.mem_singleton] at hmem

/-- The one mode entry among the actions. -/
theorem modeEntered_cases {acts : List Action} {mode : BstState}
    (hacts : acts.filterMap Action.modeEntered = [mode]) :
    mode = .connectingToBootstrap ∧ .enterWaitForBootstrapMode ∈ acts ∨
      mode = .connectingToDest ∧ .enterBootstrappedMode ∈ acts := by
  have hmem : mode ∈ acts.filterMap Action.modeEntered := by rw [hacts]; exact .head _
  obtain ⟨a, ha, hmode⟩ := List.mem_filterMap.mp hmem
  rcases Action.modeEntered_eq_some.mp hmode with ⟨rfl, rfl⟩ | ⟨rfl, rfl⟩
  · exact .inl ⟨rfl, ha⟩
  · exact .inr ⟨rfl, ha⟩

/-- Only modes are entered in which the device looks for a connection. -/
theorem modeEntered_ne {acts : List Action} {mode mode' : BstState}
    (hacts : acts.filterMap Action.modeEntered = [mode]) (hb : mode' ≠ .connectingToBootstrap)
    (hd : mode' ≠ .connectingToDest) : mode ≠ mode' := by
  rcases modeEntered_cases hacts with ⟨rfl, -⟩ | ⟨rfl, -⟩
  · exact hb.symm
  · exact hd.symm

/-- What a move makes of the link. -/
inductive LinkMove (m : LibraryMove) : Prop
  | polled (conn : ConnectState) : seen m = some conn →
      LinkStep m.input.now conn m.pre.inst m.post.inst.link m.output →
      m.post.inst.options = m.pre.inst.options → LinkMove m
  | entered (mode : BstState) : seen m = none → Resets m →
      m.post.inst.link = m.post.inst.options.newLink mode m.input.now →
      m.output.filterMap Action.modeEntered = [mode] →
      callCounts m.output = ⟨1, 0, 0⟩ → LinkMove m
  | stopped : seen m = none → Resets m → m.post.inst.state.state = .uninitialized →
      m.output = [] → LinkMove m
  | quiet : seen m = none → ¬ Resets m → m.post.inst.link = m.pre.inst.link →
      m.post.inst.options = m.pre.inst.options → callCounts m.output = ⟨0, 0, 0⟩ → LinkMove m

theorem LinkMove.of_entry (mode : BstState) {r : Instance × List Action} (hseen : seen m = none)
    (hpost : m.post.inst = r.1) (hout : m.output = r.2)
    (hl : r.1.link = r.1.options.newLink mode m.input.now)
    (hacts : r.2.filterMap Action.modeEntered = [mode]) (hc : callCounts r.2 = ⟨1, 0, 0⟩) :
    LinkMove m := by
  rw [← hpost] at hl
  rw [← hout] at hacts hc
  have hreset : Resets m := by
    rcases modeEntered_cases hacts with ⟨-, ha⟩ | ⟨-, ha⟩
    · exact .inr ⟨_, ha, trivial⟩
    · exact .inr ⟨_, ha, trivial⟩
  exact .entered mode hseen hreset hl hacts hc

theorem setup_linkMove {o : Options} {data key : List UInt8}
    (hfit : SetupContained o data key) (hc : m.input.call = .setup o data key)
    (hpost : m.post.inst = (bstSetup L m.input.now o data key).1)
    (hout : m.output = (bstSetup L m.input.now o data key).2) : LinkMove m := by
  have hseen : seen m = none := seen_eq_none_of_call (by simp [hc])
  have heff := bstSetup_effect L m.input.now o data key
  generalize bstSetup L m.input.now o data key = r at heff hpost hout
  cases heff with
  | bootstrapped => exact .of_entry .connectingToDest hseen hpost hout rfl rfl rfl
  | waiting => exact .of_entry .connectingToBootstrap hseen hpost hout rfl rfl rfl
  | idle hs hb =>
    refine .stopped hseen (.inl (by rw [hc]; trivial)) ?_ hout
    rw [hpost, (loaded_of_idle L hfit hs hb).1]
    rfl

theorem periodic_linkMove (hc : m.input.call = .periodic conn)
    (hpost : m.post.inst = (bstPeriodic L m.input.now conn m.pre.inst).1)
    (hout : m.output = (bstPeriodic L m.input.now conn m.pre.inst).2) : LinkMove m := by
  have heff := bstPeriodic_effect L m.input.now conn m.pre.inst
  by_cases hp : m.pre.inst.Polls
  · have hstep := poll_link m.input.now conn m.pre.inst
    rw [← hp.periodic L, ← hpost, ← hout] at hstep
    refine .polled conn (seen_eq_some.mpr ⟨hc, hp⟩) hstep ?_
    rw [hpost]
    exact heff.options
  have hseen : seen m = none := seen_eq_none_of_request hp
  have hcall : ¬ m.input.call.IsSetup := by
    rw [hc]
    exact id
  generalize bstPeriodic L m.input.now conn m.pre.inst = r at heff hpost hout
  have quiet (hlink : r.1.link = m.pre.inst.link) (hopt : r.1.options = m.pre.inst.options)
      (hacts : ∀ a ∈ r.2, ¬ a.EntersMode) (hcounts : callCounts r.2 = ⟨0, 0, 0⟩) : LinkMove m := by
    refine .quiet hseen (not_resets hcall ?_) ?_ ?_ ?_
    · rwa [hout]
    · rwa [hpost]
    · rwa [hpost]
    · rwa [hout]
  cases heff with
  | off => exact quiet rfl rfl (List.forall_mem_nil _) rfl
  | factoryReset ho =>
    rw [serveFactoryReset_eq L ho] at hpost hout
    exact .of_entry .connectingToBootstrap hseen hpost hout rfl rfl rfl
  | bind => exact quiet rfl rfl (by simp [serveBind, Action.EntersMode]) rfl
  | wifiList => exact quiet rfl rfl (by simp [Action.EntersMode]) rfl
  | setWifi => exact .of_entry .connectingToDest hseen hpost hout rfl rfl rfl
  | poll ho hf hb hl hw => exact absurd ⟨ho, hf, hb, hl, hw⟩ hp

theorem InputEffect.link {random : UInt64} {data : List UInt8}
    (h : InputEffect L now random data s t)
    (hfit : ∀ pkt, BindAccepted L now data pkt s → (newBindKeyLen pkt).toNat ≤ bindkeyMaxSize) :
    t.link = s.link := by
  cases h with
  | ignored => exact rfl
  | expired => exact rfl
  | hello pkt =>
    unfold Instance.helloDone
    split <;> exact rfl
  | bind pkt hb =>
    rw [bindDone_of_le (hfit pkt hb)]
    exact rfl
  | setData pkt => exact rfl

/-- Polls and mode entries apart, nothing touches the link. -/
theorem linkMove (d : Device) (e : Event) (hfit : Contained L ((library L).move d e)) :
    LinkMove ((library L).move d e) := by
  obtain ⟨now, call⟩ := e
  cases call with
  | setup o data key => exact setup_linkMove (hfit.1 o data key rfl) rfl rfl rfl
  | periodic conn => exact periodic_linkMove (L := L) rfl rfl rfl
  | networkInput data random =>
    have heff := networkInput_effect L now random data d.inst
    exact .quiet (seen_eq_none_of_call nofun) (not_resets id (List.forall_mem_nil _))
      (heff.link fun pkt ↦ hfit.2 data random pkt rfl) heff.options rfl
  | wifiNetworkList list =>
    have hout : ∀ a ∈ bstWifiNetworkList L list d.inst, ¬ a.EntersMode :=
      wifiNetworkList_only fun _ ↦ id
    have hcounts : callCounts (bstWifiNetworkList L list d.inst) = ⟨0, 0, 0⟩ := by
      unfold bstWifiNetworkList
      split <;> exact rfl
    exact .quiet (seen_eq_none_of_call nofun) (not_resets id hout) rfl rfl hcounts
  | setErrorMessage =>
    exact .quiet (seen_eq_none_of_call nofun) (not_resets id (List.forall_mem_nil _)) rfl rfl rfl
  | factoryReset =>
    exact .quiet (seen_eq_none_of_call nofun) (not_resets id (List.forall_mem_nil _)) rfl rfl rfl
  | confirmBootstrap =>
    exact .quiet (seen_eq_none_of_call nofun) (not_resets id (List.forall_mem_nil _)) rfl rfl rfl

/-- Whether an ssid is stored stays as it is, unless new data waits for its mode entry. -/
def Instance.SsidStands (b : Bool) (s : Instance) : Prop :=
  s.ssid.isSome = b ∨ s.flags.requestSetWifi = true

theorem Instance.SsidStands.keep {b : Bool} (hs : s.SsidStands b) (hssid : t.ssid = s.ssid)
    (hf : t.flags.requestSetWifi = s.flags.requestSetWifi) : t.SsidStands b := by
  rwa [SsidStands, hssid, hf]

theorem InputEffect.ssidStands {b : Bool} {random : UInt64} {data : List UInt8}
    (heff : InputEffect L now random data s t)
    (hfit : ∀ pkt, BindAccepted L now data pkt s → (newBindKeyLen pkt).toNat ≤ bindkeyMaxSize)
    (hs : s.SsidStands b) : t.SsidStands b := by
  cases heff with
  | ignored => exact hs
  | expired => exact hs.keep rfl rfl
  | hello pkt =>
    obtain ⟨st, -, ht⟩ := helloDone_frame s now random pkt
    rw [ht]
    exact hs.keep rfl rfl
  | bind pkt hb =>
    rw [bindDone_of_le (hfit pkt hb)]
    exact hs.keep rfl rfl
  | setData pkt => exact .inr rfl

theorem periodic_ssidStands {b : Bool} (L : Layout) (now : Time) (conn : ConnectState)
    (hacts : ∀ a ∈ (bstPeriodic L now conn s).2, ¬ a.EntersMode) (hs : s.SsidStands b) :
    (bstPeriodic L now conn s).1.SsidStands b := by
  have heff := bstPeriodic_effect L now conn s
  generalize bstPeriodic L now conn s = r at heff hacts
  cases heff with
  | off => exact hs
  | factoryReset ho =>
    rw [serveFactoryReset_eq L ho] at hacts
    exact (hacts .enterWaitForBootstrapMode (by simp) trivial).elim
  | bind => exact hs.keep rfl rfl
  | wifiList => exact hs.keep rfl rfl
  | setWifi =>
    have hmem : .enterBootstrappedMode ∈ (serveSetWifi now s).2 := by
      simp [serveSetWifi, prvEnterBootstrappedMode]
    exact (hacts _ hmem trivial).elim
  | poll _ _ _ _ hset hp =>
    have hssid : s.ssid.isSome = b := hs.resolve_right (by simp [hset])
    cases hp with
    | stay hd => exact .inl (by rwa [hd.ssid])
    | bootstrapped hd => exact .inl (hd.ssid ▸ hssid)
    | fellBack hd => exact .inl (hd.ssid ▸ hssid)

theorem Instance.SsidStands.step {b : Bool} (hs : d.inst.SsidStands b)
    (hfit : BindFits L ((library L).move d e)) (hr : ¬ Resets ((library L).move d e)) :
    ((library L).step e d).1.inst.SsidStands b := by
  obtain ⟨now, call⟩ := e
  cases call with
  | setup => exact absurd (.inl trivial) hr
  | periodic conn => exact periodic_ssidStands L now conn (fun a ha h ↦ hr (.inr ⟨a, ha, h⟩)) hs
  | networkInput data random =>
    exact (networkInput_effect L now random data d.inst).ssidStands
      (fun pkt ↦ hfit data random pkt rfl) hs
  | wifiNetworkList => exact hs
  | setErrorMessage => exact hs.keep rfl rfl
  | factoryReset => exact hs.keep rfl rfl
  | confirmBootstrap => exact hs.keep rfl rfl

theorem linkMove_of_eq (he : m = (library L).move m.pre m.input) (hfit : Contained L m) :
    LinkMove m := by
  rw [he] at hfit ⊢
  exact linkMove _ _ hfit

theorem linkMove_of_run {h : List LibraryMove} (r : (library L).Run .off h d)
    (hfit : ∀ m ∈ h, Contained L m) (hm : m ∈ h) :
    m = (library L).move m.pre m.input ∧ LinkMove m := by
  obtain ⟨later, earlier, rfl⟩ := List.append_of_mem hm
  obtain ⟨-, he, -⟩ := r.split
  exact ⟨he, linkMove_of_eq he (hfit m hm)⟩

/-- What mode entries, polls and quiet moves keep holds after every run without overruns. -/
theorem link_invariant {P : List LibraryMove → Options → Link → Prop}
    {G : List LibraryMove → Prop}
    (hstart : P [] Device.off.inst.options Device.off.inst.link)
    (hstep : ∀ h m, P h m.pre.inst.options m.pre.inst.link → LinkMove m → G (m :: h) →
      P (m :: h) m.post.inst.options m.post.inst.link)
    (htail : ∀ m h, G (m :: h) → G h) {h : List LibraryMove} (r : (library L).Run .off h d)
    (hfit : ∀ m ∈ h, Contained L m) (hg : G h) : P h d.inst.options d.inst.link :=
  r.history_invariant (P := fun h d ↦ P h d.inst.options d.inst.link)
    (G := fun h ↦ (∀ m ∈ h, Contained L m) ∧ G h) hstart
    (fun h d e _ hp hg ↦ hstep h _ hp (linkMove d e (hg.1 _ List.mem_cons_self)) hg.2)
    (fun m h hg ↦ ⟨fun x hx ↦ hg.1 x (List.mem_cons_of_mem _ hx), htail m h hg.2⟩) ⟨hfit, hg⟩

end BootstrapWifi
