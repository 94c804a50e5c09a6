import BootstrapWifi.Newest
import BootstrapWifi.RestartRun

namespace BootstrapWifi

open Mealy

variable {L : Layout} {h : List LibraryMove} {m : LibraryMove} {d : Device}

/-- The device is on the wifi, and goes back to bootstrap mode as the attempts to get the
advanced connection are used up. -/
def FallsBackAdvanced (m : LibraryMove) : Prop :=
  seen m = some .connected ∧ .enterWaitForBootstrapMode ∈ m.output ∧
    m.post.inst.state.lastError = .errorAdvanced

/-- The counter is over its limit while the last attempt still has time. -/
def HastyPoll (m : LibraryMove) : Prop :=
  seen m = some .connected ∧ m.pre.inst.state.state = .destinationConnected ∧
    m.pre.inst.options.needAdvancedConnection = true ∧
    m.pre.inst.options.retryConnectingToDestinationNetwork <
      m.pre.inst.state.countConnectionAttempts ∧
    m.input.now < m.pre.inst.state.timeoutConnecting

instance : Decidable (HastyPoll m) := inferInstanceAs (Decidable (_ ∧ _ ∧ _ ∧ _ ∧ _))

/-- Where attempts are counted on the wifi, the newest of them has armed the deadline. -/
def AdvancedArmed (h : List LibraryMove) (o : Options) (l : Link) : Prop :=
  l.mode = .destinationConnected → o.needAdvancedConnection = true → l.attempts ≠ 0 →
    Newest CallsConnectAdvanced
      (fun m ↦ l.deadline = m.input.now + o.timeoutConnectingStateMs) h

theorem AdvancedArmed.step (hp : AdvancedArmed h m.pre.inst.options m.pre.inst.link)
    (hm : LinkMove m) : AdvancedArmed (m :: h) m.post.inst.options m.post.inst.link := by
  cases hm with
  | entered mode _ _ hl hmode =>
    intro hd
    rw [hl] at hd
    exact absurd hd (modeEntered_ne hmode nofun nofun)
  | stopped _ _ hl =>
    intro hd
    cases hl.symm.trans hd
  | quiet _ _ hl ho hc =>
    intro hd hneed hcount
    rw [hl] at hd hcount
    rw [ho] at hneed
    have hno : ¬ CallsConnectAdvanced m := fun hm ↦
      (calls_iff rfl).mp hm (congrArg CallCounts.connectAdvanced hc)
    rw [hl, ho, newest_cons_of_not hno]
    exact hp hd hneed hcount
  | polled conn hseen hstep ho =>
    rw [ho]
    generalize m.post.inst.link = l at hstep
    intro hd hneed hcount
    generalize hout : m.output = acts at hstep
    have hcalls : CallsConnectAdvanced m ↔ acts.countP Action.isConnectAdvanced ≠ 0 :=
      calls_iff hout
    cases hstep with
    | associated _ _ hfree => exact absurd hneed (by simp [hfree])
    | associatedAdvanced => exact absurd rfl hcount
    | associatedTry => exact (newest_cons_of (hcalls.mpr one_ne_zero)).mpr rfl
    | advancedTry => exact (newest_cons_of (hcalls.mpr one_ne_zero)).mpr rfl
    | online hmode =>
      rw [newest_cons_of_not fun hm ↦ hcalls.mp hm rfl]
      exact hp hmode hneed hcount
    | off hmode => cases hmode.symm.trans hd
    | bootstrapWait hmode => cases hmode.symm.trans hd
    | greetAgain hmode => cases hmode.symm.trans hd
    | destWait hmode => cases hmode.symm.trans hd
    | _ => cases hd

theorem advancedArmed_of_run (r : (library L).Run .off h d) (hfit : ∀ m ∈ h, Contained L m) :
    AdvancedArmed h d.inst.options d.inst.link :=
  link_invariant (G := fun _ ↦ True) (fun hd ↦ absurd hd (by decide))
    (fun _ _ hp hm _ ↦ hp.step hm) (fun _ _ _ ↦ trivial) r hfit trivial

theorem FallsBackAdvanced.usedUp (hx : FallsBackAdvanced m) (hm : LinkMove m) :
    m.pre.inst.state.state = .destinationConnected ∧
      m.pre.inst.options.needAdvancedConnection = true ∧
      m.pre.inst.options.retryConnectingToDestinationNetwork <
        m.pre.inst.state.countConnectionAttempts := by
  obtain ⟨hseen, hout, -⟩ := hx
  cases hm with
  | polled conn hs hstep =>
    cases hs.symm.trans hseen
    generalize m.output = acts at hstep hout
    generalize m.post.inst.link = l at hstep
    cases hstep with
    | advancedQuit hmode _ hneed hcount => exact ⟨hmode, hneed, hcount⟩
    | destFailed _ hf => cases hf
    | bootstrapRetry _ hf => cases hf
    | bootstrapQuit _ hf => cases hf
    | destRetry _ hf => cases hf
    | destQuit _ hf => cases hf
    | _ => simp [Instance.greeting, Instance.enterDestinationActions] at hout
  | entered _ hs => cases hs.symm.trans hseen
  | stopped hs => cases hs.symm.trans hseen
  | quiet hs => cases hs.symm.trans hseen

theorem HastyPoll.fallsBack (hx : HastyPoll m) (he : m = (library L).move m.pre m.input) :
    FallsBackAdvanced m := by
  obtain ⟨hseen, hmode, hneed, hcount, -⟩ := hx
  obtain ⟨hpost, hout⟩ := move_of_seen hseen he
  have hpoll : poll m.input.now .connected m.pre.inst =
      fallBack m.input.now .errorAdvanced errFailedAdvanced m.pre.inst := by
    simp only [poll, hmode, pollDestinationConnected]
    rw [if_pos hneed, if_pos hcount]
  refine ⟨hseen, ?_, ?_⟩
  · rw [hout, hpoll]
    exact .head _
  · rw [hpost, hpoll]
    rfl

/-- Every advanced attempt gets its time unless a poll comes too soon after the last one. -/
theorem attempts_get_time_iff (r : (library L).Run .off h d) (hfit : ∀ m ∈ h, Contained L m) :
    (∀ later x earlier, h = later ++ x :: earlier → FallsBackAdvanced x →
      Newest CallsConnectAdvanced
        (fun m ↦ m.input.now + x.pre.inst.options.timeoutConnectingStateMs ≤ x.input.now)
        earlier) ↔
      ∀ m ∈ h, ¬ HastyPoll m := by
  have armed : ∀ later x earlier, h = later ++ x :: earlier →
      x = (library L).move x.pre x.input ∧ LinkMove x ∧
        (FallsBackAdvanced x → Newest CallsConnectAdvanced
          (fun m ↦ x.pre.inst.state.timeoutConnecting =
            m.input.now + x.pre.inst.options.timeoutConnectingStateMs) earlier) := by
    intro later x earlier he
    subst he
    obtain ⟨hr, he, -⟩ := r.split
    have hm : LinkMove x := linkMove_of_eq he (hfit x (by simp))
    refine ⟨he, hm, fun hx ↦ ?_⟩
    obtain ⟨hmode, hneed, hcount⟩ := hx.usedUp hm
    have hpos : x.pre.inst.link.attempts ≠ 0 := by
      intro hzero
      rw [← Instance.link_attempts, hzero] at hcount
      exact absurd hcount UInt8.not_lt_zero
    exact advancedArmed_of_run hr (fun y hy ↦ hfit y (by simp [hy])) hmode hneed hpos
  constructor
  · intro htime m hm hx
    obtain ⟨later, earlier, he⟩ := List.append_of_mem hm
    obtain ⟨hmove, -, harmed⟩ := armed later m earlier he
    have hfalls : FallsBackAdvanced m := hx.fallsBack hmove
    obtain ⟨y, -, -, hdeadline, hle⟩ :=
      ((harmed hfalls).and (htime later m earlier he hfalls)).exists_mem
    refine absurd hx.2.2.2.2 (not_lt.mpr ?_)
    exact hdeadline.trans_le hle
  · intro hall later x earlier he hfalls
    obtain ⟨-, hm, harmed⟩ := armed later x earlier he
    obtain ⟨hmode, hneed, hcount⟩ := hfalls.usedUp hm
    have hdue : x.pre.inst.state.timeoutConnecting ≤ x.input.now := by
      by_contra hearly
      exact hall x (by simp [he]) ⟨hfalls.1, hmode, hneed, hcount, not_le.mp hearly⟩
    exact (harmed hfalls).mono fun y _ _ hdeadline ↦ hdeadline.symm.trans_le hdue

def advancedOptions : Options :=
  { sampleOptions with
    needAdvancedConnection := true
    retryConnectingToDestinationNetwork := 1 }

theorem advancedOptions_ready : advancedOptions.Ready := ⟨rfl, rfl⟩

def patientPolls : List (Time × ConnectState) :=
  [(2, .connected), (1002, .connected), (2002, .connected)]

/-- A device that is looked at whenever its deadline comes gives up at time 2002, when its
second attempt has had 1000 ms. -/
theorem sample_attempts_get_time :
    ∃ x earlier, restartHistory advancedOptions patientPolls = x :: earlier ∧
      Newest CallsConnectAdvanced
        (fun m ↦ m.input.now + x.pre.inst.options.timeoutConnectingStateMs ≤ x.input.now)
        earlier := by
  have hpolite : ∀ m ∈ restartHistory advancedOptions patientPolls, ¬ HastyPoll m := by decide
  have htime := (attempts_get_time_iff (run_restart advancedOptions patientPolls)
    (restart_contained advancedOptions_ready)).mpr hpolite
  exact ⟨_, _, rfl, htime [] _ _ rfl ⟨rfl, .head _, rfl⟩⟩

def eagerPolls : List (Time × ConnectState) :=
  [(2, .connected), (1002, .connected), (1003, .connected)]

/-- One poll after the second attempt is enough to give up. -/
theorem last_attempt_cut_short :
    (library lp64).Run .off (restartHistory advancedOptions eagerPolls)
        (restarted advancedOptions eagerPolls) ∧
      ∃ x earlier, restartHistory advancedOptions eagerPolls = x :: earlier ∧
        FallsBackAdvanced x ∧
        ¬ Newest CallsConnectAdvanced
          (fun m ↦ m.input.now + x.pre.inst.options.timeoutConnectingStateMs ≤ x.input.now)
          earlier := by
  refine ⟨run_restart _ _, _, _, rfl, ⟨rfl, .head _, rfl⟩, fun hn ↦ ?_⟩
  have hcall := (newest_cons_of ⟨_, .head _, rfl⟩).mp hn
  exact absurd hcall (by decide)

end BootstrapWifi
