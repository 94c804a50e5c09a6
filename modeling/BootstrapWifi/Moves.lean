import BootstrapWifi.Device
import BootstrapWifi.InputEffect
import BootstrapWifi.PeriodicEffect
import BootstrapWifi.SetupEffect

namespace BootstrapWifi

open Mealy

variable (L : Layout) {now : Time} {d : Device} {e : Event} {m : LibraryMove} {s : Instance}

def Call.IsSetup : Call → Prop
  | .setup .. => True
  | _ => False

def Action.EntersMode : Action → Prop
  | .enterWaitForBootstrapMode | .enterBootstrappedMode => True
  | _ => False

def Resets (m : LibraryMove) : Prop := m.input.call.IsSetup ∨ ∃ a ∈ m.output, a.EntersMode

/-- A BIND that the move accepts brings no more than 32 bytes. -/
def BindFits (m : LibraryMove) : Prop :=
  ∀ data random pkt, m.input.call = .networkInput data random →
    BindAccepted L m.input.now data pkt m.pre.inst → (newBindKeyLen pkt).toNat ≤ bindkeyMaxSize

def SetupFits (m : LibraryMove) : Prop :=
  ∀ o data key, m.input.call = .setup o data key → SetupContained o data key

def SetupReady (m : LibraryMove) : Prop :=
  ∀ o data key, m.input.call = .setup o data key → o.Ready

theorem SetupReady.fits (h : SetupReady m) : SetupFits m :=
  fun o data key hc ↦ .inl (h o data key hc).1

theorem setup_of_not {P : Options → List UInt8 → List UInt8 → Prop} (hc : ¬ m.input.call.IsSetup) :
    ∀ o data key, m.input.call = .setup o data key → P o data key := by
  intro o data key h
  rw [h] at hc
  exact absurd trivial hc

@[simp] theorem Device.after_inst (r : Instance × List Action) : (d.after r).1.inst = r.1 := rfl

@[simp] theorem Device.after_output (r : Instance × List Action) : (d.after r).2 = r.2 := rfl

theorem step_networkInput {data : List UInt8} {random : UInt64}
    (hc : e.call = .networkInput data random) :
    (library L).step e d = d.after ((bstNetworkInput L e.now random data d.inst).val, []) := by
  obtain ⟨now, call⟩ := e
  cases hc
  rfl

theorem step_periodic {conn : ConnectState} (hc : e.call = .periodic conn) :
    (library L).step e d = d.after (bstPeriodic L e.now conn d.inst) := by
  obtain ⟨now, call⟩ := e
  cases hc
  rfl

inductive MoveEffect (m : LibraryMove) : Prop
  | reset : Resets m → m.post.inst.flags = .zero → m.post.inst.state.timeNonceValid = 0 →
      (¬ m.input.call.IsSetup → m.post.inst.options = m.pre.inst.options) → MoveEffect m
  | input (data : List UInt8) (random : UInt64) : m.input.call = .networkInput data random →
      ¬ Resets m → InputEffect L m.input.now random data m.pre.inst m.post.inst → MoveEffect m
  | quiet : (∀ data random, m.input.call ≠ .networkInput data random) → ¬ Resets m →
      SameSession m.pre.inst m.post.inst → m.post.inst.options = m.pre.inst.options →
      m.post.inst.flags.requestSetWifi = m.pre.inst.flags.requestSetWifi →
      (m.post.inst.flags.externalConfirmation = m.pre.inst.flags.externalConfirmation ∨
        m.input.call = .confirmBootstrap) → MoveEffect m

theorem not_resets (hc : ¬ m.input.call.IsSetup) (h : ∀ a ∈ m.output, ¬ a.EntersMode) :
    ¬ Resets m := by
  intro hr
  rcases hr with hs | ⟨a, ha, he⟩
  · exact hc hs
  · exact h a ha he

theorem Action.Routine.not_entersMode {a : Action} (h : a.Routine s) : ¬ a.EntersMode := by
  intro he
  cases a with
  | enterWaitForBootstrapMode => exact h
  | enterBootstrappedMode => exact h
  | _ => exact he

theorem PeriodicEffect.entered {r : Instance × List Action} (heff : PeriodicEffect L now s r)
    (ha : ∃ a ∈ r.2, a.EntersMode) : r.1.flags = .zero ∧ r.1.state.timeNonceValid = 0 := by
  cases heff with
  | off => simp at ha
  | factoryReset ho =>
    rw [serveFactoryReset_eq L ho]
    exact ⟨rfl, rfl⟩
  | bind => simp [serveBind, Action.EntersMode] at ha
  | wifiList => simp [Action.EntersMode] at ha
  | setWifi => exact ⟨rfl, rfl⟩
  | poll _ _ _ _ _ hp =>
    cases hp with
    | stay _ _ _ hr =>
      obtain ⟨a, hmem, hm⟩ := ha
      exact absurd hm (hr a hmem).not_entersMode
    | bootstrapped => exact ⟨rfl, rfl⟩
    | fellBack => exact ⟨rfl, rfl⟩

theorem PeriodicEffect.not_entered {r : Instance × List Action} (heff : PeriodicEffect L now s r)
    (ha : ¬ ∃ a ∈ r.2, a.EntersMode) :
    SameSession s r.1 ∧ r.1.flags.requestSetWifi = s.flags.requestSetWifi ∧
      r.1.flags.externalConfirmation = s.flags.externalConfirmation := by
  cases heff with
  | off => exact ⟨.refl s, rfl, rfl⟩
  | factoryReset ho =>
    rw [serveFactoryReset_eq L ho] at ha
    simp [Action.EntersMode] at ha
  | bind => exact ⟨⟨rfl, rfl, rfl⟩, rfl, rfl⟩
  | wifiList => exact ⟨⟨rfl, rfl, rfl⟩, rfl, rfl⟩
  | setWifi => simp [serveSetWifi, prvEnterBootstrappedMode, Action.EntersMode] at ha
  | poll _ _ _ _ _ hp =>
    cases hp with
    | stay hd hs =>
      rw [hd.flags]
      exact ⟨hs, rfl, rfl⟩
    | bootstrapped =>
      exact absurd ⟨.enterBootstrappedMode, by simp [prvEnterBootstrappedMode], trivial⟩ ha
    | fellBack => simp [prvEnterWaitForBootstrapMode, Action.EntersMode] at ha

theorem periodic_moveEffect (conn : ConnectState) :
    MoveEffect L ((library L).move d ⟨now, .periodic conn⟩) := by
  have heff := bstPeriodic_effect L now conn d.inst
  by_cases ha : ∃ a ∈ (bstPeriodic L now conn d.inst).2, a.EntersMode
  · obtain ⟨hflags, htime⟩ := heff.entered L ha
    exact .reset (.inr ha) hflags htime fun _ ↦ heff.options
  · obtain ⟨hsession, hset, hconf⟩ := heff.not_entered L ha
    exact .quiet nofun (not_resets id fun a hmem he ↦ ha ⟨a, hmem, he⟩) hsession heff.options hset
      (.inl hconf)

theorem moveEffect (d : Device) (e : Event) (hfit : SetupFits ((library L).move d e)) :
    MoveEffect L ((library L).move d e) := by
  obtain ⟨now, call⟩ := e
  cases call with
  | setup o data key =>
    obtain ⟨hflags, htime⟩ := bstSetup_cleared L now data key (hfit o data key rfl)
    exact .reset (.inl trivial) hflags htime fun h ↦ absurd trivial h
  | periodic conn => exact periodic_moveEffect L conn
  | networkInput data random =>
    exact .input data random rfl (not_resets id (List.forall_mem_nil _))
      (networkInput_effect L now random data d.inst)
  | wifiNetworkList list =>
    have hout : ∀ a ∈ bstWifiNetworkList L list d.inst, ¬ a.EntersMode :=
      wifiNetworkList_only fun _ ↦ id
    exact .quiet nofun (not_resets id hout) (.refl _) rfl rfl (.inl rfl)
  | setErrorMessage mesg =>
    exact .quiet nofun (not_resets id (List.forall_mem_nil _)) ⟨rfl, rfl, rfl⟩ rfl rfl (.inl rfl)
  | factoryReset =>
    exact .quiet nofun (not_resets id (List.forall_mem_nil _)) ⟨rfl, rfl, rfl⟩ rfl rfl (.inl rfl)
  | confirmBootstrap =>
    exact .quiet nofun (not_resets id (List.forall_mem_nil _)) ⟨rfl, rfl, rfl⟩ rfl rfl (.inr rfl)

theorem flags_of_resets (hfit : SetupFits ((library L).move d e))
    (hr : Resets ((library L).move d e)) : ((library L).step e d).1.inst.flags = .zero := by
  cases moveEffect L d e hfit with
  | reset _ hf => exact hf
  | input _ _ _ hnot => exact absurd hr hnot
  | quiet _ hnot => exact absurd hr hnot

/-- A flag that only certain moves set goes back to one of them since the last reset. -/
theorem flag_founded_step {flag : Flags → Bool} {Q : LibraryMove → Prop} {h : List LibraryMove}
    (hzero : flag .zero = false) (hfit : SetupFits ((library L).move d e))
    (hd : flag d.inst.flags = true → Since (fun m ↦ ¬ Resets m) Q h)
    (hstep : ¬ Resets ((library L).move d e) →
      flag ((library L).step e d).1.inst.flags = true →
        flag d.inst.flags = true ∨ Q ((library L).move d e)) :
    flag ((library L).step e d).1.inst.flags = true →
      Since (fun m ↦ ¬ Resets m) Q ((library L).move d e :: h) := by
  intro hflag
  by_cases hr : Resets ((library L).move d e)
  · rw [flags_of_resets L hfit hr, hzero] at hflag
    cases hflag
  · rcases hstep hr hflag with hpre | hq
    · exact .inr ⟨hr, hd hpre⟩
    · exact .inl hq

end BootstrapWifi
