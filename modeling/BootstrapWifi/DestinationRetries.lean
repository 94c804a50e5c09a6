import BootstrapWifi.Newest
import BootstrapWifi.RestartRun

namespace BootstrapWifi

open Mealy

variable {L : Layout} {conn : ConnectState} {h : List LibraryMove} {m x : LibraryMove} {d : Device}
  {a t n r : ℕ}

def EntersBootstrappedMode (m : LibraryMove) : Prop := .enterBootstrappedMode ∈ m.output

instance : Decidable (EntersBootstrappedMode m) := inferInstanceAs (Decidable (_ ∈ _))

/-- Failures before this call do not count any more. -/
def startsOver (m : LibraryMove) : Bool :=
  decide (EntersBootstrappedMode m) || (seen m).any ConnectState.isConnected

/-- The call finds that an attempt has brought no connection in its time. -/
def missesDeadline (m : LibraryMove) : Bool :=
  (seen m).any (fun conn ↦ !conn.isConnected) &&
    decide (m.pre.inst.state.state = .connectingToDest ∧
      m.pre.inst.state.timeoutConnecting < m.input.now)

def missedDeadlines (h : List LibraryMove) : ℕ := countSince startsOver missesDeadline h

/-- The deadline branch leaves `BST_MODE_CONNECTING_TO_DEST`. -/
def GivesUp (m : LibraryMove) : Prop :=
  missesDeadline m = true ∧ .enterWaitForBootstrapMode ∈ m.output

/-- The device was on the wifi, and a poll finds that it is no more. -/
def FindsLoss (m : LibraryMove) : Prop :=
  (seen m).any ConnectState.isLost = true ∧ m.pre.inst.state.state = .destinationConnected

def StartsCounting (m : LibraryMove) : Prop := EntersBootstrappedMode m ∨ FindsLoss m

instance : Decidable (FindsLoss m) := inferInstanceAs (Decidable (_ ∧ _))

instance : Decidable (StartsCounting m) := inferInstanceAs (Decidable (_ ∨ _))

/-- The value the attempts are counted from. -/
def startCount (m : LibraryMove) : UInt8 :=
  if EntersBootstrappedMode m then 0 else m.pre.inst.state.countConnectionAttempts

/-- The counter stands at `n` after `t` missed deadlines, starting from `a`. -/
def Counted (a t n r : ℕ) : Prop :=
  a < 255 ∧ n = a + t ∧ (t = 0 ∨ a + t < r) ∨
    a = 255 ∧ (t = 0 ∧ n = 255 ∨ t ≤ r ∧ t = n + 1)

theorem Counted.zero (ha : a < 256) : Counted a 0 a r := by
  unfold Counted
  omega

theorem Counted.retry (hc : Counted a t n r) (hr : r < 256) (hlt : (n + 1) % 256 < r) :
    Counted a (t + 1) ((n + 1) % 256) r := by
  unfold Counted at hc ⊢
  omega

/-- With the last attempt as many deadlines have been missed as there are attempts, unless the
counter did not start at 0. -/
theorem Counted.quit (hc : Counted a t n r) (hpos : 1 ≤ r) (hr : r < 256)
    (hle : r ≤ (n + 1) % 256) : r ≤ t + 1 ↔ r = 1 ∨ a = 0 ∨ a = 255 := by
  unfold Counted at hc
  omega

/-- How the counter relates to the deadlines missed so far. -/
structure RetryCount (h : List LibraryMove) (o : Options) (l : Link) : Prop where
  connecting : l.mode = .connectingToDest →
    ∃ a : UInt8, Newest StartsCounting (fun m ↦ startCount m = a) h ∧
      Counted a.toNat (missedDeadlines h) l.attempts.toNat
        o.retryConnectingToDestinationNetwork.toNat
  connected : l.mode = .destinationConnected → missedDeadlines h = 0

theorem RetryCount.elsewhere {o : Options} {l : Link} (hl : l.mode.isDestination = false) :
    RetryCount h o l := by
  constructor
  · intro hm
    rw [hm] at hl
    cases hl
  · intro hm
    rw [hm] at hl
    cases hl

theorem RetryCount.entered {o : Options} {l : Link} (hl : l.mode = .connectingToDest)
    (hzero : l.attempts = 0) (hm : EntersBootstrappedMode m) : RetryCount (m :: h) o l := by
  constructor
  · intro _
    refine ⟨0, (newest_cons_of (.inl hm)).mpr (if_pos hm), ?_⟩
    rw [missedDeadlines, countSince_cons_of (by simp [startsOver, hm]), hzero]
    exact .zero (by decide)
  · intro hd
    cases hl.symm.trans hd

theorem RetryCount.connect {o : Options} {l : Link} (hl : l.mode = .destinationConnected)
    (hseen : seen m = some conn) (hc : conn.isConnected = true) : RetryCount (m :: h) o l := by
  constructor
  · intro hd
    cases hl.symm.trans hd
  · intro _
    exact countSince_cons_of (by simp [startsOver, hseen, hc])

/-- A move that neither starts over nor misses a deadline nor finds a loss. -/
theorem RetryCount.keep {o : Options} {l : Link} (hp : RetryCount h o l)
    (hstart : startsOver m = false) (hmiss : missesDeadline m = false) (hloss : ¬ FindsLoss m) :
    RetryCount (m :: h) o l := by
  have henter : ¬ EntersBootstrappedMode m := by
    intro he
    simp [startsOver, he] at hstart
  have hsame : missedDeadlines (m :: h) = missedDeadlines h := by
    rw [missedDeadlines, countSince_cons_of_not hstart, hmiss]
    rfl
  constructor
  · intro hl
    obtain ⟨a, hn, hc⟩ := hp.connecting hl
    have hno : ¬ StartsCounting m := not_or.mpr ⟨henter, hloss⟩
    refine ⟨a, (newest_cons_of_not hno).mpr hn, ?_⟩
    rwa [hsame]
  · intro hl
    rw [hsame]
    exact hp.connected hl

theorem RetryCount.step (hp : RetryCount h m.pre.inst.options m.pre.inst.link) (hm : LinkMove m) :
    RetryCount (m :: h) m.post.inst.options m.post.inst.link := by
  cases hm with
  | entered mode hs _ hl hmode =>
    rcases modeEntered_cases hmode with ⟨rfl, -⟩ | ⟨rfl, he⟩
    · exact .elsewhere (by rw [hl]; rfl)
    · exact .entered (by rw [hl]; rfl) (by rw [hl]; rfl) he
  | stopped _ _ hl => exact .elsewhere (by rw [Instance.link_mode, hl]; rfl)
  | quiet hs hr hl ho =>
    rw [hl, ho]
    have henter : ¬ EntersBootstrappedMode m := fun he ↦ hr (.inr ⟨_, he, trivial⟩)
    exact hp.keep (by simp [startsOver, hs, henter]) (by simp [missesDeadline, hs])
      fun hf ↦ by simp [FindsLoss, hs] at hf
  | polled conn hs hstep ho =>
    rw [ho]
    have henter (acts : List Action) (hout : m.output = acts) :
        EntersBootstrappedMode m ↔ .enterBootstrappedMode ∈ acts := by
      rw [EntersBootstrappedMode, hout]
    generalize hl : m.post.inst.link = l at hstep
    generalize hout : m.output = acts at hstep
    have hm := henter acts hout
    cases hstep with
    | off hmode => exact .elsewhere (by rw [Instance.link_mode, hmode]; rfl)
    | bootstrapWait hmode => exact .elsewhere (by rw [Instance.link_mode, hmode]; rfl)
    | greetAgain hmode => exact .elsewhere (by rw [Instance.link_mode, hmode]; rfl)
    | bootstrapQuit => exact .entered rfl rfl (hm.mpr (.head _))
    | dataQuit => exact .entered rfl rfl (hm.mpr (List.mem_append_right _ (.head _)))
    | associated _ hc => exact .connect rfl hs hc
    | associatedAdvanced _ hc => exact .connect rfl hs hc
    | associatedTry _ hc => exact .connect rfl hs (hc ▸ rfl)
    | online hmode hc => exact .connect hmode hs hc
    | advancedTry _ hc => exact .connect rfl hs (hc ▸ rfl)
    | destWait hmode hlost ht =>
      have hc : conn.isConnected = false := ConnectState.isConnected_of_isLost hlost
      refine hp.keep ?_ ?_ fun hf ↦ ?_
      · simp [startsOver, hm, hs, hc]
      · simp [missesDeadline, hs, hmode, ht]
      · cases hmode.symm.trans hf.2
    | destRetry hmode hc ht hlt =>
      have hstart : startsOver m = false := by
        simp [startsOver, hm, hs, hc]
      have hmiss : missesDeadline m = true := by
        simp [missesDeadline, hs, hc, hmode, ht]
      have hloss : ¬ FindsLoss m := fun hf ↦ by cases hmode.symm.trans hf.2
      have hno : ¬ StartsCounting m := not_or.mpr ⟨by simp [hm], hloss⟩
      constructor
      · intro _
        obtain ⟨a, hn, hcount⟩ := hp.connecting hmode
        refine ⟨a, (newest_cons_of_not hno).mpr hn, ?_⟩
        rw [missedDeadlines, countSince_cons_of_not hstart, hmiss]
        exact hcount.retry (UInt8.toNat_lt _) hlt
      · intro hd
        cases hd
    | destLost hmode hlost =>
      have hc : conn.isConnected = false := ConnectState.isConnected_of_isLost hlost
      have hstart : startsOver m = false := by
        simp [startsOver, hm, hs, hc]
      have hmiss : missesDeadline m = false := by
        simp [missesDeadline, hmode]
      have hloss : FindsLoss m := ⟨by simp [hs, hlost], hmode⟩
      constructor
      · intro _
        refine ⟨m.pre.inst.state.countConnectionAttempts, ?_, ?_⟩
        · exact (newest_cons_of (.inr hloss)).mpr (if_neg (by simp [hm]))
        · rw [missedDeadlines, countSince_cons_of_not hstart, hmiss]
          have hzero : missedDeadlines h = 0 := hp.connected hmode
          rw [missedDeadlines] at hzero
          rw [hzero]
          exact .zero (UInt8.toNat_lt _)
      · intro hd
        cases hd
    | _ => exact .elsewhere rfl

theorem retryCount_of_run (r : (library L).Run .off h d) (hfit : ∀ m ∈ h, Contained L m) :
    RetryCount h d.inst.options d.inst.link :=
  link_invariant (G := fun _ ↦ True) (.elsewhere rfl)
    (fun _ _ hp hm _ ↦ hp.step hm) (fun _ _ _ ↦ trivial) r hfit trivial

theorem GivesUp.lastAttempt (hx : GivesUp x) (hm : LinkMove x) :
    x.pre.inst.state.state = .connectingToDest ∧ ¬ EntersBootstrappedMode x ∧
      x.pre.inst.options.retryConnectingToDestinationNetwork ≤
        x.pre.inst.state.countConnectionAttempts + 1 := by
  obtain ⟨hmiss, hout⟩ := hx
  simp only [missesDeadline, Bool.and_eq_true, decide_eq_true_eq] at hmiss
  obtain ⟨hseen, hmode, ht⟩ := hmiss
  refine ⟨hmode, ?_⟩
  cases hm with
  | polled conn hs hstep =>
    unfold EntersBootstrappedMode
    generalize x.output = acts at hstep hout
    generalize x.post.inst.link = l at hstep
    cases hstep with
    | destQuit _ _ _ hle => exact ⟨by simp [Instance.enterBootstrapActions], hle⟩
    | destFailed _ _ hin => exact absurd (hin hmode) (not_le.mpr ht)
    | advancedQuit hother => cases hmode.symm.trans hother
    | _ => simp [Instance.greeting, Instance.enterDestinationActions] at hout
  | entered _ hs => simp [hs] at hseen
  | stopped hs => simp [hs] at hseen
  | quiet hs => simp [hs] at hseen

/-- Whether the retries are used up by failures in a row depends on where the counter stood
when they started. -/
theorem retries_consecutive_iff (hr : (library L).Run .off h d) (hfit : ∀ m ∈ h, Contained L m) :
    ∀ later x earlier, h = later ++ x :: earlier → GivesUp x →
      1 ≤ x.pre.inst.options.retryConnectingToDestinationNetwork →
      (x.pre.inst.options.retryConnectingToDestinationNetwork.toNat ≤
          missedDeadlines (x :: earlier) ↔
        x.pre.inst.options.retryConnectingToDestinationNetwork = 1 ∨
          Newest StartsCounting (fun m ↦ startCount m = 0 ∨ startCount m = 255) earlier) := by
  intro later x earlier he hx hpos
  subst he
  obtain ⟨hr, he, -⟩ := hr.split
  have hm : LinkMove x := linkMove_of_eq he (hfit x (by simp))
  obtain ⟨hmode, henter, hle⟩ := hx.lastAttempt hm
  obtain ⟨a, hn, hcount⟩ :=
    (retryCount_of_run hr fun y hy ↦ hfit y (by simp [hy])).connecting hmode
  have hnot : startsOver x = false := by
    have hmiss := hx.1
    simp only [missesDeadline, Bool.and_eq_true] at hmiss
    obtain ⟨hseen, -⟩ := hmiss
    cases hs : seen x with
    | none => simp [startsOver, henter, hs]
    | some conn =>
      rw [hs] at hseen
      simpa [startsOver, henter, hs] using hseen
  have hmissed : missedDeadlines (x :: earlier) = missedDeadlines earlier + 1 := by
    rw [missedDeadlines, countSince_cons_of_not hnot, hx.1]
    rfl
  have hstart : Newest StartsCounting (fun m ↦ startCount m = 0 ∨ startCount m = 255) earlier ↔
      a = 0 ∨ a = 255 := by
    constructor
    · intro hfresh
      obtain ⟨y, -, -, hy, hfresh⟩ := (hn.and hfresh).exists_mem
      rwa [hy] at hfresh
    · intro ha
      refine hn.mono fun y _ _ hy ↦ ?_
      rwa [hy]
  rw [hmissed, hcount.quit hpos (UInt8.toNat_lt _) hle, hstart, ← UInt8.toNat_inj,
    ← UInt8.toNat_inj, ← UInt8.toNat_inj]
  exact Iff.rfl

def twoTriesOptions : Options := { sampleOptions with retryConnectingToDestinationNetwork := 2 }

theorem twoTriesOptions_ready : twoTriesOptions.Ready := ⟨rfl, rfl⟩

def lossPolls : List (Time × ConnectState) :=
  [(2, .connected), (3, .noConnection), (1002, .noConnection), (2003, .noConnection)]

/-- After a connection that came at once, a loss is followed by two attempts. -/
theorem sample_retries_consecutive :
    ∃ x earlier, restartHistory twoTriesOptions lossPolls = x :: earlier ∧
      2 ≤ missedDeadlines (x :: earlier) := by
  have hstart : Newest StartsCounting (fun m ↦ startCount m = 0 ∨ startCount m = 255)
      (restartHistory twoTriesOptions lossPolls).tail := by
    refine .inr ⟨by decide, .inl ⟨.inr ⟨rfl, rfl⟩, ?_⟩⟩
    decide
  exact ⟨_, _, rfl, (retries_consecutive_iff (run_restart twoTriesOptions lossPolls)
    (restart_contained twoTriesOptions_ready) [] _ _ rfl ⟨rfl, .head _⟩ (by decide)).mpr
      (.inr hstart)⟩

def lateConnectionPolls : List (Time × ConnectState) :=
  [(1002, .noConnection), (1003, .connected), (1004, .noConnection), (2003, .noConnection)]

/-- The attempt that failed before the connection came still counts after its loss. -/
theorem connection_does_not_start_over :
    (library lp64).Run .off (restartHistory twoTriesOptions lateConnectionPolls)
        (restarted twoTriesOptions lateConnectionPolls) ∧
      ∃ x earlier, restartHistory twoTriesOptions lateConnectionPolls = x :: earlier ∧
        GivesUp x ∧ 1 ≤ x.pre.inst.options.retryConnectingToDestinationNetwork ∧
        ¬ x.pre.inst.options.retryConnectingToDestinationNetwork.toNat ≤
          missedDeadlines (x :: earlier) :=
  ⟨run_restart _ _, _, _, rfl, ⟨rfl, .head _⟩, by decide, by decide⟩

end BootstrapWifi
