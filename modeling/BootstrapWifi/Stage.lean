import BootstrapWifi.LinkMove
import BootstrapWifi.PendingRequests

namespace BootstrapWifi

open Mealy

variable {L : Layout} {now : Time} {conn : ConnectState} {s : Instance} {d : Device} {e : Event}

/-- How far a device has come: its mode, whether it has an ssid, and whether it has accepted
credentials that it still has to store. -/
structure Stage where
  mode : BstState
  ssid : Bool
  accepted : Bool
deriving DecidableEq

def Instance.stage (s : Instance) : Stage :=
  ⟨s.state.state, s.ssid.isSome, s.flags.requestSetWifi⟩

def Device.stage (d : Device) : Stage := d.inst.stage

/-- The device after its first start without credentials, or after a factory reset. -/
def Stage.fresh : Stage := ⟨.connectingToBootstrap, false, false⟩

/-- The device after a start with stored credentials. -/
def Stage.restarted : Stage := ⟨.connectingToDest, true, false⟩

inductive StageEdge : Stage → Stage → Prop
  | online (ssid : Bool) :
      StageEdge ⟨.connectingToBootstrap, ssid, false⟩ ⟨.waitingForData, ssid, false⟩
  | offline (ssid : Bool) :
      StageEdge ⟨.waitingForData, ssid, false⟩ ⟨.connectingToBootstrap, ssid, false⟩
  | giveUp {mode : BstState} : mode.isBootstrap = true →
      StageEdge ⟨mode, true, false⟩ ⟨.connectingToDest, true, false⟩
  | accept (ssid ssid' : Bool) :
      StageEdge ⟨.waitingForData, ssid, false⟩ ⟨.waitingForData, ssid', true⟩
  | execute (ssid : Bool) :
      StageEdge ⟨.waitingForData, ssid, true⟩ ⟨.connectingToDest, ssid, false⟩
  | associate (ssid : Bool) :
      StageEdge ⟨.connectingToDest, ssid, false⟩ ⟨.destinationConnected, ssid, false⟩
  | dissociate (ssid : Bool) :
      StageEdge ⟨.destinationConnected, ssid, false⟩ ⟨.connectingToDest, ssid, false⟩
  | fallBack {mode : BstState} (ssid : Bool) : mode.isDestination = true →
      StageEdge ⟨mode, ssid, false⟩ ⟨.connectingToBootstrap, ssid, false⟩
  | factoryReset {p : Stage} : p ≠ .fresh → StageEdge p .fresh

theorem StageEdge.ne {p q : Stage} (h : StageEdge p q) : q ≠ p := by
  cases h with
  | giveUp hb =>
    rintro ⟨⟩
    cases hb
  | fallBack _ hd =>
    rintro ⟨⟩
    cases hd
  | factoryReset hp => exact hp.symm
  | _ => exact nofun

theorem StageEdge.mode_ne {p q : Stage} (h : StageEdge p q) : q.mode ≠ .uninitialized := by
  cases h <;> exact nofun

/-- A step of the connection along an edge, or within a mode. -/
theorem LinkStep.edge {l : Link} {acts : List Action} (h : LinkStep now conn s l acts) :
    l.mode = s.state.state ∨
      StageEdge ⟨s.state.state, s.ssid.isSome, false⟩ ⟨l.mode, s.ssid.isSome, false⟩ := by
  cases h with
  | off | bootstrapWait | greetAgain | destWait | online => exact .inl rfl
  | bootstrapRetry hm | destRetry hm | advancedTry hm => exact .inl hm.symm
  | bootstrapQuit hm _ _ hs =>
    rw [hm, hs]
    exact .inr (.giveUp rfl)
  | dataWait hb =>
    rcases BstState.isBootstrap_iff.mp hb with hm | hm
    · rw [hm]
      exact .inr (.online _)
    · exact .inl hm.symm
  | dataRearm hb =>
    rcases BstState.isBootstrap_iff.mp hb with hm | hm
    · rw [hm]
      exact .inr (.online _)
    · exact .inl hm.symm
  | dataQuit hb _ _ hs =>
    rw [hs]
    exact .inr (.giveUp hb)
  | dataLost hm =>
    rw [hm]
    exact .inr (.offline _)
  | destQuit hm =>
    rw [hm]
    exact .inr (.fallBack _ rfl)
  | destFailed hd => exact .inr (.fallBack _ hd)
  | associated hm | associatedAdvanced hm | associatedTry hm =>
    rw [hm]
    exact .inr (.associate _)
  | advancedQuit hm =>
    rw [hm]
    exact .inr (.fallBack _ rfl)
  | destLost hm =>
    rw [hm]
    exact .inr (.dissociate _)

theorem PollEffect.ssid {r : Instance × List Action} (h : PollEffect now s r) :
    r.1.ssid = s.ssid := by
  cases h with
  | stay hd => exact hd.ssid
  | bootstrapped hd => exact hd.ssid
  | fellBack hd => exact hd.ssid

theorem PollEffect.requestSetWifi {r : Instance × List Action} (h : PollEffect now s r)
    (hf : s.flags.requestSetWifi = false) : r.1.flags.requestSetWifi = false := by
  cases h with
  | stay hd => rwa [hd.flags]
  | bootstrapped => exact rfl
  | fellBack => exact rfl

theorem poll_stage (now : Time) (conn : ConnectState) (hf : s.flags.requestSetWifi = false) :
    (poll now conn s).1.stage = s.stage ∨ StageEdge s.stage (poll now conn s).1.stage := by
  have heff := poll_effect now conn s
  have hpre : s.stage = ⟨s.state.state, s.ssid.isSome, false⟩ := by rw [Instance.stage, hf]
  have hpost : (poll now conn s).1.stage =
      ⟨(poll now conn s).1.link.mode, s.ssid.isSome, false⟩ := by
    rw [Instance.stage, heff.ssid, heff.requestSetWifi hf, Instance.link_mode]
  rw [hpre, hpost]
  rcases (poll_link now conn s).edge with hmode | hedge
  · exact .inl (by rw [hmode])
  · exact .inr hedge

/-- Requests wait for their turn, and the device has left the state it was switched on in. -/
structure Running (s : Instance) : Prop where
  requests : RequestsWait s
  mode : s.state.state ≠ .uninitialized

theorem Running.ready (h : Running s) : s.options.Ready := h.requests.ready h.mode

theorem periodic_stage (L : Layout) (now : Time) (conn : ConnectState) (h : Running s) :
    (bstPeriodic L now conn s).1.stage = s.stage ∨
      StageEdge s.stage (bstPeriodic L now conn s).1.stage := by
  by_cases hp : s.Polls
  · rw [hp.periodic L]
    exact poll_stage now conn hp.setWifi
  have heff := bstPeriodic_effect L now conn s
  generalize bstPeriodic L now conn s = r at heff
  cases heff with
  | off | bind | wifiList => exact .inl rfl
  | factoryReset ho =>
    have hfresh : (serveFactoryReset L now s).1.stage = .fresh := by
      rw [serveFactoryReset_eq L ho]
      change Stage.mk .connectingToBootstrap (loaded L s.options [] []).ssid.isSome false = _
      rw [loaded_ssid_nil]
      rfl
    rw [hfresh]
    by_cases hs : s.stage = .fresh
    · exact .inl hs.symm
    · exact .inr (.factoryReset hs)
  | setWifi _ _ _ _ hw =>
    have hm := h.requests.waiting (.inr (.inr hw))
    have hpre : s.stage = ⟨.waitingForData, s.ssid.isSome, true⟩ := by
      rw [Instance.stage, hm, hw]
    rw [hpre]
    exact .inr (.execute _)
  | poll ho hf hb hl hw => exact absurd ⟨ho, hf, hb, hl, hw⟩ hp

theorem InputEffect.stage {t : Instance} {random : UInt64} {data : List UInt8}
    (h : InputEffect L now random data s t)
    (hfit : ∀ pkt, BindAccepted L now data pkt s → (newBindKeyLen pkt).toNat ≤ bindkeyMaxSize) :
    t.stage = s.stage ∨ StageEdge s.stage t.stage := by
  cases h with
  | ignored => exact .inl rfl
  | expired => exact .inl rfl
  | hello pkt =>
    obtain ⟨st, hmode, ht⟩ := helloDone_frame s now random pkt
    rw [ht, Instance.stage, Instance.stage, hmode]
    exact .inl rfl
  | bind pkt hb =>
    rw [bindDone_of_le (hfit pkt hb)]
    exact .inl rfl
  | setData pkt hset =>
    have hpre : s.stage = ⟨.waitingForData, s.ssid.isSome, false⟩ := by
      rw [Instance.stage, hset.1.1, hset.2.2.2.2.2]
    have hpost : (s.setDataDone pkt).stage =
        ⟨.waitingForData, (s.setDataDone pkt).ssid.isSome, true⟩ :=
      congrArg (fun mode ↦ Stage.mk mode (s.setDataDone pkt).ssid.isSome true) hset.1.1
    rw [hpre, hpost]
    exact .inr (.accept _ _)

/-- The platform does not set the device up again, and no key runs over. -/
structure Undisturbed (L : Layout) (m : LibraryMove) : Prop where
  setup : ¬ m.input.call.IsSetup
  bind : BindFits L m

theorem step_stage (hd : Running d.inst) (hm : Undisturbed L ((library L).move d e)) :
    ((library L).step e d).1.stage = d.stage ∨
      StageEdge d.stage ((library L).step e d).1.stage := by
  obtain ⟨now, call⟩ := e
  cases call with
  | setup => exact absurd trivial hm.setup
  | periodic conn => exact periodic_stage L now conn hd
  | networkInput data random =>
    exact (networkInput_effect L now random data d.inst).stage fun pkt ↦ hm.bind data random pkt rfl
  | wifiNetworkList | setErrorMessage | factoryReset | confirmBootstrap => exact .inl rfl

theorem Running.step (hd : Running d.inst) (hm : Undisturbed L ((library L).move d e)) :
    Running ((library L).step e d).1.inst where
  requests := hd.requests.step (setup_of_not hm.setup) hm.bind
  mode := by
    change ((library L).step e d).1.stage.mode ≠ _
    rcases step_stage hd hm with hs | hs
    · rw [hs]
      exact hd.mode
    · exact hs.mode_ne

end BootstrapWifi
