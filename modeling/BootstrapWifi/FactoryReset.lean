import BootstrapWifi.AppRun

namespace BootstrapWifi

open Mealy

variable {L : Layout} {now : Time} {d : Device} {e : Event} {h : List LibraryMove}
  {o : Options} {data : List UInt8}

/-- The options as the library keeps them: edited once if the last `bst_setup` of the
platform found stored data. -/
def OptionsKept (d : Device) : Prop :=
  d.inst.options =
    if (prvAssignData d.bstData .zero).ssid.isSome then d.options.bootstrapped else d.options

theorem OptionsKept.step (hd : OptionsKept d) : OptionsKept ((library L).step e d).1 := by
  obtain ⟨now, call⟩ := e
  cases call with
  | setup o data key => exact bstSetup_options L now o data key
  | periodic conn =>
    have hkeep := (bstPeriodic_effect L now conn d.inst).options
    rw [step_periodic L rfl]
    exact hkeep.trans hd
  | networkInput data random =>
    have hkeep := (networkInput_effect L now random data d.inst).options
    rw [step_networkInput L rfl]
    exact hkeep.trans hd
  | _ => exact hd

theorem optionsKept_off : OptionsKept .off := rfl

theorem optionsKept_of_run (r : (library L).Run .off h d) : OptionsKept d :=
  r.invariant (P := OptionsKept) (G := fun _ ↦ True) optionsKept_off (fun _ _ hd _ ↦ hd.step)
    fun _ _ ↦ trivial

theorem prvAssignData_ssid_isSome (data : List UInt8) (s : Instance) :
    (prvAssignData data s).ssid.isSome ↔ data.getD 0 0 ≠ 0 := by
  rw [prvAssignData_ssid, assignedStorage_head]
  split
  next hz => exact iff_of_false (by simp) (not_not.mpr hz)
  next hz => exact iff_of_true rfl hz

theorem Options.bootstrapped_eq_self :
    o.bootstrapped = o ↔ o.externalConfirmationMode ≠ .requiredFirstStart := by
  unfold Options.bootstrapped
  split
  next hm =>
    refine iff_of_false (fun he ↦ ?_) (not_not.mpr hm)
    have hmode := congrArg Options.externalConfirmationMode he
    rw [hm] at hmode
    cases hmode
  next hm => exact iff_of_true rfl hm

/-- The library has edited the options it was given. -/
theorem OptionsKept.eq_iff (hd : OptionsKept d) : d.inst.options = d.options ↔
    ¬ (d.options.externalConfirmationMode = .requiredFirstStart ∧ d.bstData.getD 0 0 ≠ 0) := by
  rw [hd, ← prvAssignData_ssid_isSome d.bstData .zero]
  by_cases hs : (prvAssignData d.bstData .zero).ssid.isSome = true
  · rw [if_pos hs, Options.bootstrapped_eq_self]
    simp [hs]
  · rw [if_neg hs]
    simp [hs]

theorem OptionsKept.ready (hd : OptionsKept d) (ho : d.options.Ready) : d.inst.options.Ready := by
  rw [hd]
  split
  · exact ho.bootstrapped
  · exact ho

def afterFactoryReset (L : Layout) (t now : Time) (conn : ConnectState) (d : Device) : Device :=
  ((library L).step ⟨now, .periodic conn⟩ ((library L).step ⟨t, .factoryReset⟩ d).1).1

theorem afterFactoryReset_eq (L : Layout) (t now : Time) (conn : ConnectState)
    (ho : d.inst.options.Ready) :
    (afterFactoryReset L t now conn d).flash = ⟨[], []⟩ ∧
      (afterFactoryReset L t now conn d).inst = (bstSetup L now d.inst.options [] []).1 := by
  have hserve : bstPeriodic L now conn (bstFactoryReset d.inst) =
      serveFactoryReset L now (bstFactoryReset d.inst) := bstPeriodic_factoryReset L conn ho rfl
  have hready : (bstFactoryReset d.inst).options.Ready := ho
  have hafter : afterFactoryReset L t now conn d =
      (Device.after { d with inst := bstFactoryReset d.inst }
        (serveFactoryReset L now (bstFactoryReset d.inst))).1 := by
    rw [← hserve]
    rfl
  rw [hafter]
  refine ⟨?_, rfl⟩
  rw [serveFactoryReset_eq L hready]
  rfl

/-- A factory reset brings the first boot back unless the last `bst_setup` found stored data
and so switched off a confirmation that is asked for at the first start. -/
theorem factory_reset_restores_iff (r : (library L).Run .off h d) (ho : d.options.Ready)
    (t now : Time) (conn : ConnectState) :
    ((afterFactoryReset L t now conn d).flash = ⟨[], []⟩ ∧
      (afterFactoryReset L t now conn d).inst = (bstSetup L now d.options [] []).1) ↔
      ¬ (d.options.externalConfirmationMode = .requiredFirstStart ∧ d.bstData.getD 0 0 ≠ 0) := by
  have hd := optionsKept_of_run r
  obtain ⟨hflash, hinst⟩ := afterFactoryReset_eq L t now conn (hd.ready ho)
  rw [← hd.eq_iff, hflash, hinst]
  constructor
  · intro h
    obtain ⟨-, he⟩ := h
    have hopt := congrArg Instance.options he
    rwa [bstSetup_options_nil, bstSetup_options_nil] at hopt
  · intro hopt
    rw [hopt]
    exact ⟨rfl, rfl⟩

theorem sample_factory_reset_restores :
    (afterFactoryReset lp64 50 51 .connected sampleDevice).inst =
      (bstSetup lp64 51 sampleOptions [] []).1 :=
  ((factory_reset_restores_iff run_sample sampleOptions_ready 50 51 .connected).mpr
    (by decide)).2

def cautiousOptions : Options :=
  { sampleOptions with externalConfirmationMode := .requiredFirstStart }

def restartedMove : LibraryMove :=
  (library lp64).move .off ⟨1, .setup cautiousOptions [97, 0, 98] []⟩

/-- After its factory reset it does not ask for a confirmation, as a new one would. -/
theorem factory_reset_drops_confirmation :
    (library lp64).Run .off [restartedMove] restartedMove.post ∧
      restartedMove.post.options = cautiousOptions ∧ cautiousOptions.Ready ∧
      (afterFactoryReset lp64 50 51 .connected restartedMove.post).inst ≠
        (bstSetup lp64 51 cautiousOptions [] []).1 := by
  have hr : (library lp64).Run .off [restartedMove] restartedMove.post := Machine.Run.nil.snoc _
  have hd := optionsKept_of_run hr
  have hready : cautiousOptions.Ready := ⟨rfl, rfl⟩
  refine ⟨hr, rfl, hready, fun he ↦ ?_⟩
  rw [(afterFactoryReset_eq lp64 50 51 .connected (hd.ready hready)).2] at he
  have hopt := congrArg Instance.options he
  rw [bstSetup_options_nil, bstSetup_options_nil] at hopt
  exact hd.eq_iff.mp hopt (by decide)

end BootstrapWifi
