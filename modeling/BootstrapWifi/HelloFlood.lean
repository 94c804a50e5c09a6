import BootstrapWifi.Dialogue
import BootstrapWifi.LongPress

namespace BootstrapWifi

open Mealy

variable {L : Layout} {o : Options} {flash : Flash} {x : Turn} {b b' : Board} {h : List BoardMove}
  {d d₀ : Device} {now : Time} {call : Call} {calls : List Call}

/-- Nothing of the device has changed but its session and the requests for lists. -/
structure Besieged (d₀ d : Device) : Prop where
  options : d.inst.options = d₀.inst.options
  waiting : d.inst.state.state = .waitingForData
  appNonce : d.inst.state.prvAppNonce = d₀.inst.state.prvAppNonce
  credentials : d.inst.credentials = d₀.inst.credentials
  secretField : d.inst.secretField = d₀.inst.secretField
  setWifi : d.inst.flags.requestSetWifi = d₀.inst.flags.requestSetWifi
  factoryReset : d.inst.flags.requestFactoryReset = false
  bind : d.inst.flags.requestBind = false
  flash : d.flash = d₀.flash

/-- The HELLO of the app that has opened the last session, as anybody can hear it. -/
def overheardHello (d : Device) : List UInt8 := plainPkt cmdHello d.inst.state.prvAppNonce.bytes

theorem Besieged.confirm (hd : Besieged d₀ d) (now : Time) :
    Besieged d₀ ((library L).step ⟨now, .confirmBootstrap⟩ d).1 :=
  ⟨hd.options, hd.waiting, hd.appNonce, hd.credentials, hd.secretField, hd.setWifi,
    hd.factoryReset, hd.bind, hd.flash⟩

/-- The HELLO is taken at any time, and a list has to be fetched for it. -/
theorem Besieged.hello (hd : Besieged d₀ d) (now : Time) (random : UInt64) :
    Besieged d₀ ((library L).step ⟨now, .networkInput (overheardHello d₀) random⟩ d).1 ∧
      ((library L).step ⟨now, .networkInput (overheardHello d₀) random⟩ d).1.inst.flags.requestWifiList
        = true := by
  have hacc : HelloAccepted L now (overheardHello d₀) (overheardHello d₀) d.inst := by
    rw [overheardHello, ← hd.appNonce]
    exact helloAccepted_receivePkt hd.waiting d.inst.state.prvAppNonce.length_bytes (.inr rfl)
  have hnonce : (d.inst.helloDone now random (overheardHello d₀)).state.prvAppNonce =
      d.inst.state.prvAppNonce := by
    rw [overheardHello, ← hd.appNonce]
    exact helloDone_app (a := ⟨d.inst.state.prvAppNonce, [], .zero _⟩) (.inr rfl)
  obtain ⟨st, hst, hdone⟩ := helloDone_frame d.inst now random (overheardHello d₀)
  rw [hdone] at hnonce
  rw [step_networkInput L rfl, networkInput_of_hello hacc, hdone]
  exact ⟨⟨hd.options, hst.trans hd.waiting, hnonce.trans hd.appNonce, hd.credentials,
    hd.secretField, hd.setWifi, hd.factoryReset, hd.bind, hd.flash⟩, rfl⟩

/-- The list is fetched before anything else is looked at. -/
theorem Besieged.periodic (hd : Besieged d₀ d) (ho : d₀.inst.options.Ready)
    (hl : d.inst.flags.requestWifiList = true) (now : Time) (conn : ConnectState) :
    Besieged d₀ ((library L).step ⟨now, .periodic conn⟩ d).1 ∧
      ((library L).step ⟨now, .periodic conn⟩ d).2 = [.requestWifiNetworkList] := by
  have hready : d.inst.options.Ready := hd.options.symm ▸ ho
  rw [step_periodic L rfl, bstPeriodic_wifiList L conn hready hd.factoryReset hd.bind hl]
  exact ⟨⟨hd.options, hd.waiting, hd.appNonce, hd.credentials, hd.secretField, hd.setWifi,
    hd.factoryReset, hd.bind, hd.flash⟩, rfl⟩

theorem Besieged.exec (hd : Besieged d₀ d) (hcalls : ∀ call ∈ calls, call = .confirmBootstrap)
    (now : Time) (random : UInt64) :
    let r := (library L).exec d
      ((calls ++ [Call.networkInput (overheardHello d₀) random]).map fun call ↦ ⟨now, call⟩)
    Besieged d₀ r.2 ∧ r.2.inst.flags.requestWifiList = true ∧ ∀ m ∈ r.1, m.output = [] := by
  induction calls generalizing d with
  | nil =>
    obtain ⟨hnext, hl⟩ := hd.hello (L := L) now random
    exact ⟨hnext, hl, List.forall_mem_singleton.mpr rfl⟩
  | cons call calls ih =>
    obtain ⟨rfl, hrest⟩ := List.forall_mem_cons.mp hcalls
    obtain ⟨hnext, hl, hout⟩ := ih (hd.confirm (L := L) now) hrest
    refine ⟨hnext, hl, fun m hm ↦ ?_⟩
    rcases List.mem_append.mp hm with hm | hm
    · exact hout m hm
    · rw [List.mem_singleton.mp hm]
      rfl

def BoardMove.actions (m : BoardMove) : List Action := m.output.moves.flatMap Move.output

/-- In this mode the button confirms at most. -/
theorem press_waiting (hm : b.device.inst.state.state = .waitingForData) :
    ∀ call ∈ (x.press b).2.filterMap SketchCall.call, call = .confirmBootstrap := by
  intro call hcall
  obtain ⟨c, hc, hcall⟩ := List.mem_filterMap.mp hcall
  cases c with
  | digitalWrite level => cases hcall
  | factoryReset =>
    rw [(press_reset hc).2] at hm
    cases hm
  | confirmBootstrap => exact (Option.some.inj hcall).symm

theorem Besieged.loop (hd : Besieged d₀ b.device) (ho : d₀.inst.options.Ready)
    (hx : x.packet = some (overheardHello d₀)) :
    Besieged d₀ ((board L o flash).step (.loop x) b).1.device ∧
      BoardMove.actions ((board L o flash).move b (.loop x)) = [.requestWifiNetworkList] := by
  have hcalls : x.calls (x.press b).2 = (x.press b).2.filterMap SketchCall.call ++
      [.networkInput (overheardHello d₀) (bstGetRandom x.rand)] := by
    rw [Turn.calls, hx]
    rfl
  obtain ⟨hnext, hl, hout⟩ := hd.exec (L := L) (press_waiting (x := x) hd.waiting)
    (systemTimeMs x.inputMicros) (bstGetRandom x.rand)
  rw [← hcalls] at hnext hl hout
  obtain ⟨hlast, hscan⟩ := hnext.periodic (L := L) ho hl (systemTimeMs x.periodicMicros)
    (bstGetConnectionState x.reception b.lastRssiTime).2.1
  refine ⟨hlast, ?_⟩
  have hnone : ((x.before L b).1).flatMap Move.output = [] := List.flatMap_eq_nil_iff.mpr hout
  have hmoves : ((board L o flash).move b (.loop x)).output.moves =
      (library L).move (x.before L b).2 ⟨systemTimeMs x.periodicMicros,
        .periodic (bstGetConnectionState x.reception b.lastRssiTime).2.1⟩ :: (x.before L b).1 := rfl
  rw [BoardMove.actions, hmoves, List.flatMap_cons, hnone, List.append_nil]
  exact hscan

theorem Besieged.scanDone (hd : Besieged d₀ b.device) (ok : Bool) (result : List BssInfo) :
    Besieged d₀ ((board L o flash).step (.scanDone ok result) b).1.device ∧
      ∀ a ∈ BoardMove.actions ((board L o flash).move b (.scanDone ok result)),
        ∃ out, a = .networkOutput out := by
  rw [BoardMove.actions, move_output]
  change Besieged d₀ (boardStep L o (.scanDone ok result) b).1.device ∧
    ∀ a ∈ (boardStep L o (.scanDone ok result) b).2.moves.flatMap Move.output, _
  unfold boardStep
  dsimp only
  split
  · exact ⟨hd, List.forall_mem_nil _⟩
  next list _ =>
    have hstep : ((library L).step ⟨0, .wifiNetworkList list⟩ b.device).1 = b.device := by
      rw [step_wifiNetworkList]
    refine ⟨?_, fun a ha ↦ ?_⟩
    · rw [move_post, hstep]
      exact hd
    · rw [List.flatMap_singleton] at ha
      exact wifiNetworkList_only (P := fun a ↦ ∃ out, a = .networkOutput out)
        (fun out ↦ ⟨out, rfl⟩) a ha

end BootstrapWifi
