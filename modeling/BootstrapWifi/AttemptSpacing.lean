import BootstrapWifi.Newest
import BootstrapWifi.RestartRun

namespace BootstrapWifi

open Mealy

variable {L : Layout} {now : Time} {conn : ConnectState} {h : List LibraryMove}
  {m x y : LibraryMove} {d : Device} {o : Options} {l l' : Link}

/-- Two attempts to get onto the wifi that belong to one stay in a mode group are an interval
apart when no other attempt lies between them. -/
def AttemptsSpaced (h : List LibraryMove) : Prop :=
  ∀ later x mid y earlier, h = later ++ x :: (mid ++ y :: earlier) →
    CallsConnectToWifi y → CallsConnectToWifi x → (∀ m ∈ mid, ¬ CallsConnectToWifi m) →
    (∀ m ∈ x :: mid, ¬ Resets m) →
    y.input.now + x.pre.inst.options.timeoutConnectingStateMs ≤ x.input.now

/-- A retry for the destination network that finds the deadline cleared by a connection with
need_advanced_connection. -/
def RetriesOnCleared (m : LibraryMove) : Prop :=
  (seen m).any (fun conn ↦ !conn.isConnected) = true ∧
    m.pre.inst.state.state = .connectingToDest ∧
    m.pre.inst.options.needAdvancedConnection = true ∧
    m.pre.inst.state.timeoutConnecting = 0 ∧ 0 < m.input.now ∧
    m.pre.inst.state.countConnectionAttempts + 1 <
      m.pre.inst.options.retryConnectingToDestinationNetwork

instance : Decidable (RetriesOnCleared m) :=
  inferInstanceAs (Decidable (_ ∧ _ ∧ _ ∧ _ ∧ _ ∧ _))

/-- The deadline lies an interval after the attempt, or is the cleared one. -/
def DueAfter (o : Options) (l : Link) (y : LibraryMove) : Prop :=
  o.nextDeadline y.input.now ≤ l.deadline ∨
    l.mode.isDestination = true ∧ o.needAdvancedConnection = true ∧ l.deadline = 0

theorem DueAfter.mode (hx : DueAfter o l y) (hd : l'.deadline = l.deadline)
    (hm : l'.mode.isDestination = l.mode.isDestination) : DueAfter o l' y := by
  rwa [DueAfter, hd, hm]

theorem DueAfter.rearmed (hl : l.deadline = o.nextDeadline now) (hy : y.input.now ≤ now) :
    DueAfter o l y := by
  left
  rw [hl]
  exact Int.add_le_add_right hy _

/-- The newest attempt lies in this stay, and the deadline was armed with it or later. -/
def Dialled (h : List LibraryMove) (o : Options) (l : Link) : Prop :=
  l.mode ≠ .uninitialized →
    Since (fun m ↦ ¬ CallsConnectToWifi m ∧ ¬ Resets m)
      (fun y ↦ CallsConnectToWifi y ∧ DueAfter o l y) h

theorem Dialled.called (hc : CallsConnectToWifi m) (hl : l.deadline = o.nextDeadline m.input.now) :
    Dialled (m :: h) o l :=
  fun _ ↦ .inl ⟨hc, .inl hl.ge⟩

theorem Dialled.keep (hp : Dialled h o l) (hl : l.mode ≠ .uninitialized)
    (hc : ¬ CallsConnectToWifi m) (hr : ¬ Resets m)
    (hdue : ∀ y ∈ h, DueAfter o l y → DueAfter o l' y) : Dialled (m :: h) o l' :=
  fun _ ↦ .inr ⟨⟨hc, hr⟩, (hp hl).mono (fun _ _ hx ↦ hx) fun y hy hx ↦ ⟨hx.1, hdue y hy hx.2⟩⟩

theorem Dialled.step (hp : Dialled h m.pre.inst.options m.pre.inst.link) (hm : LinkMove m)
    (hclock : ClockMono (m :: h)) : Dialled (m :: h) m.post.inst.options m.post.inst.link := by
  have hbefore : ∀ y ∈ h, y.input.now ≤ m.input.now := (List.pairwise_cons.mp hclock).1
  cases hm with
  | entered mode _ _ hl _ hc =>
    refine .called ((calls_iff rfl).mpr ?_) (by rw [hl]; rfl)
    exact (congrArg CallCounts.connectToWifi hc).trans_ne one_ne_zero
  | stopped _ _ hl => exact fun hmode ↦ absurd hl hmode
  | quiet _ hr hl ho hc =>
    rw [hl, ho]
    intro hmode
    refine hp.keep hmode (fun hm ↦ ?_) hr (fun _ _ hx ↦ hx) hmode
    exact (calls_iff rfl).mp hm (congrArg CallCounts.connectToWifi hc)
  | polled conn hs hstep ho =>
    rw [ho]
    generalize hl : m.post.inst.link = l at hstep
    generalize hout : m.output = acts at hstep
    have hcalls : CallsConnectToWifi m ↔ acts.countP Action.isConnectToWifi ≠ 0 := calls_iff hout
    have keep (hmode : m.pre.inst.state.state ≠ .uninitialized)
        (hacts : ∀ a ∈ acts, a.isConnectToWifi = false ∧ ¬ a.EntersMode)
        (hdue : ∀ y ∈ h, DueAfter m.pre.inst.options m.pre.inst.link y →
          DueAfter m.pre.inst.options l y) : Dialled (m :: h) m.pre.inst.options l := by
      refine hp.keep hmode ?_ ?_ hdue
      · rw [hcalls, not_not, List.countP_eq_zero]
        exact fun a ha ↦ by simp [(hacts a ha).1]
      · exact not_resets_of_seen hs hout fun a ha ↦ (hacts a ha).2
    have alive {mode : BstState} (hm : m.pre.inst.state.state = mode)
        (hne : mode ≠ .uninitialized) : m.pre.inst.state.state ≠ .uninitialized := by
      rwa [hm]
    have bootstrap (hb : m.pre.inst.state.state.isBootstrap = true) :
        m.pre.inst.state.state ≠ .uninitialized ∧
          m.pre.inst.state.state.isDestination = false := by
      refine ⟨fun hm ↦ ?_, BstState.isDestination_of_isBootstrap hb⟩
      rw [hm] at hb
      cases hb
    cases hstep with
    | off hmode => exact fun hne ↦ absurd hmode hne
    | bootstrapRetry => exact .called (hcalls.mpr one_ne_zero) rfl
    | bootstrapQuit => exact .called (hcalls.mpr one_ne_zero) rfl
    | dataQuit =>
      refine .called (hcalls.mpr ?_) rfl
      rw [List.countP_append]
      exact Nat.succ_ne_zero _
    | destRetry => exact .called (hcalls.mpr one_ne_zero) rfl
    | destQuit => exact .called (hcalls.mpr one_ne_zero) rfl
    | destFailed => exact .called (hcalls.mpr one_ne_zero) rfl
    | advancedQuit => exact .called (hcalls.mpr one_ne_zero) rfl
    | bootstrapWait hmode =>
      exact keep (alive hmode nofun) (List.forall_mem_nil _) fun _ _ hx ↦ hx
    | destWait hmode => exact keep (alive hmode nofun) (List.forall_mem_nil _) fun _ _ hx ↦ hx
    | online hmode => exact keep (alive hmode nofun) (List.forall_mem_nil _) fun _ _ hx ↦ hx
    | greetAgain hmode => exact keep (alive hmode nofun) greeting_only fun _ _ hx ↦ hx
    | dataWait hb =>
      obtain ⟨hne, hdest⟩ := bootstrap hb
      exact keep hne greeting_only fun _ _ hx ↦ hx.mode rfl hdest.symm
    | dataRearm hb =>
      exact keep (bootstrap hb).1 greeting_only fun y hy _ ↦ .rearmed rfl (hbefore y hy)
    | dataLost hmode =>
      exact keep (alive hmode nofun) (List.forall_mem_nil _) fun _ _ hx ↦
        hx.mode rfl (by rw [Instance.link_mode, hmode]; rfl)
    | destLost hmode =>
      exact keep (alive hmode nofun) (List.forall_mem_nil _) fun _ _ hx ↦
        hx.mode rfl (by rw [Instance.link_mode, hmode]; rfl)
    | associated hmode =>
      exact keep (alive hmode nofun) (List.forall_mem_nil _) fun _ _ hx ↦
        hx.mode rfl (by rw [Instance.link_mode, hmode]; rfl)
    | associatedAdvanced hmode _ hneed =>
      exact keep (alive hmode nofun) (List.forall_mem_nil _) fun _ _ _ ↦ .inr ⟨rfl, hneed, rfl⟩
    | associatedTry hmode =>
      refine keep (alive hmode nofun) (List.forall_mem_singleton.mpr ⟨rfl, id⟩) ?_
      exact fun y hy _ ↦ .rearmed rfl (hbefore y hy)
    | advancedTry hmode =>
      refine keep (alive hmode nofun) (List.forall_mem_singleton.mpr ⟨rfl, id⟩) ?_
      exact fun y hy _ ↦ .rearmed rfl (hbefore y hy)

theorem dialled_of_run (r : (library L).Run .off h d) (hclock : ClockMono h)
    (hfit : ∀ m ∈ h, Contained L m) : Dialled h d.inst.options d.inst.link :=
  link_invariant (fun hm ↦ absurd rfl hm) (fun _ _ hp hm hg ↦ hp.step hm hg)
    (fun _ _ hg ↦ (List.pairwise_cons.mp hg).2) r hfit hclock

/-- An attempt inside a stay waits for the deadline. -/
theorem LinkMove.retries (hm : LinkMove x) (hc : CallsConnectToWifi x) (hr : ¬ Resets x) :
    x.pre.inst.state.timeoutConnecting ≤ x.input.now ∧
      (x.pre.inst.state.state.isDestination = true → x.pre.inst.state.timeoutConnecting = 0 →
        x.pre.inst.options.needAdvancedConnection = true → RetriesOnCleared x) ∧
      x.pre.inst.state.state ≠ .uninitialized := by
  cases hm with
  | entered _ _ hreset => exact absurd hreset hr
  | stopped _ hreset => exact absurd hreset hr
  | quiet _ _ _ _ hcounts =>
    exact absurd (congrArg CallCounts.connectToWifi hcounts) ((calls_iff rfl).mp hc)
  | polled conn hs hstep =>
    rw [resets_iff_of_seen hs] at hr
    generalize x.post.inst.link = l at hstep
    generalize hout : x.output = acts at hstep hr
    have hcalls : acts.countP Action.isConnectToWifi ≠ 0 := (calls_iff hout).mp hc
    have quiet (hacts : ∀ a ∈ acts, a.isConnectToWifi = false) : False :=
      hcalls (List.countP_eq_zero.mpr fun a ha ↦ by simp [hacts a ha])
    cases hstep with
    | bootstrapRetry hmode _ ht =>
      refine ⟨ht, fun hd ↦ ?_, by simp [hmode]⟩
      rw [hmode] at hd
      cases hd
    | destRetry hmode hlost ht hcount =>
      refine ⟨ht.le, fun _ hzero hneed ↦ ?_, by simp [hmode]⟩
      exact ⟨by simp [hs, hlost], hmode, hneed, hzero, hzero ▸ ht, hcount⟩
    | greetAgain => exact (quiet fun a ha ↦ (greeting_only a ha).1).elim
    | dataWait => exact (quiet fun a ha ↦ (greeting_only a ha).1).elim
    | dataRearm => exact (quiet fun a ha ↦ (greeting_only a ha).1).elim
    | dataQuit => exact absurd ⟨_, List.mem_append_right _ (.head _), trivial⟩ hr
    | bootstrapQuit => exact absurd ⟨_, .head _, trivial⟩ hr
    | destQuit => exact absurd ⟨_, .head _, trivial⟩ hr
    | destFailed => exact absurd ⟨_, .head _, trivial⟩ hr
    | advancedQuit => exact absurd ⟨_, .head _, trivial⟩ hr
    | _ => exact absurd rfl hcalls

theorem RetriesOnCleared.calls (hx : RetriesOnCleared x)
    (he : x = (library L).move x.pre x.input) : CallsConnectToWifi x ∧ ¬ Resets x := by
  obtain ⟨hlost, hmode, -, hzero, hpos, hcount⟩ := hx
  cases hs : seen x with
  | none =>
    rw [hs] at hlost
    cases hlost
  | some conn =>
    have hc : conn.isConnected = false := by simpa [hs] using hlost
    have hpoll : (poll x.input.now conn x.pre.inst).2 =
        [.connectToWifi x.pre.inst.ssidString x.pre.inst.pwdString] := by
      simp only [poll, hmode, pollConnectingToDest]
      rw [hc, if_neg Bool.false_ne_true, if_pos (hzero ▸ hpos), if_neg (UInt8.not_le.mpr hcount)]
      rfl
    have hout : x.output = _ := (move_of_seen hs he).2.trans hpoll
    refine ⟨(calls_iff hout).mpr one_ne_zero, ?_⟩
    exact not_resets_of_seen hs hout (List.forall_mem_singleton.mpr id)

/-- Attempts are spaced unless a retry that finds a cleared deadline follows too soon. -/
theorem attempts_spaced_iff (r : (library L).Run .off h d) (hclock : ClockMono h)
    (hfit : ∀ m ∈ h, Contained L m) :
    AttemptsSpaced h ↔ ∀ later x earlier, h = later ++ x :: earlier → RetriesOnCleared x →
      Newest CallsConnectToWifi
        (fun y ↦ y.input.now + x.pre.inst.options.timeoutConnectingStateMs ≤ x.input.now)
        earlier := by
  have dialled : ∀ later x earlier, h = later ++ x :: earlier →
      Dialled earlier x.pre.inst.options x.pre.inst.link := by
    intro later x earlier he
    subst he
    obtain ⟨hr, -, -⟩ := r.split
    exact dialled_of_run hr (List.pairwise_cons.mp (List.pairwise_append.mp hclock).2.1).2
      fun y hy ↦ hfit y (by simp [hy])
  constructor
  · intro hspaced later x earlier he hx
    obtain ⟨hmove, hm⟩ := linkMove_of_run r hfit (m := x) (by simp [he])
    obtain ⟨hcalls, hreset⟩ := hx.calls hmove
    obtain ⟨mid, y, older, rfl, ⟨hy, -⟩, hmid⟩ :=
      since_iff.mp (dialled later x earlier he (hm.retries hcalls hreset).2.2)
    have hstay : ∀ m ∈ x :: mid, ¬ Resets m :=
      List.forall_mem_cons.mpr ⟨hreset, fun m hm ↦ (hmid m hm).2⟩
    have hle := hspaced later x mid y older he hy hcalls (fun m hm ↦ (hmid m hm).1) hstay
    exact newest_iff.mpr ⟨mid, y, older, rfl, ⟨hy, hle⟩, fun m hm ↦ (hmid m hm).1⟩
  · intro hall later x mid y earlier he hy hx hmid hstay
    obtain ⟨hmove, hm⟩ := linkMove_of_run r hfit (m := x) (by simp [he])
    obtain ⟨hdue, hcleared, halive⟩ := hm.retries hx (hstay x List.mem_cons_self)
    have hnewest : Newest CallsConnectToWifi
        (DueAfter x.pre.inst.options x.pre.inst.link) (mid ++ y :: earlier) :=
      Since.mono (dialled later x _ he halive) (fun _ _ hm ↦ hm.1) fun _ _ hm ↦ hm
    rcases hnewest.here hmid hy with hle | ⟨hdest, hneed, hzero⟩
    · exact hle.trans hdue
    · exact (hall later x _ he (hcleared hdest hzero hneed)).here hmid hy

def serverOptions : Options := { sampleOptions with needAdvancedConnection := true }

theorem serverOptions_ready : serverOptions.Ready := ⟨rfl, rfl⟩

/-- The device sees the plain wifi once before it loses it. -/
def plainLossPolls : List (Time × ConnectState) :=
  [(2, .connectedAdvanced), (3, .connected), (4, .noConnection), (1004, .noConnection)]

theorem sample_attempts_spaced : AttemptsSpaced (restartHistory serverOptions plainLossPolls) := by
  have hnone : ∀ m ∈ restartHistory serverOptions plainLossPolls, ¬ RetriesOnCleared m := by decide
  refine (attempts_spaced_iff (run_restart _ _) (restart_clockMono (by decide))
    (restart_contained serverOptions_ready)).mpr fun later x earlier he hx ↦ ?_
  exact absurd hx (hnone x (by simp [he]))

/-- The advanced connection is there at once, and is lost. -/
def quickLossPolls : List (Time × ConnectState) :=
  [(2, .connectedAdvanced), (3, .noConnection), (4, .noConnection)]

/-- The first poll after the loss asks for the wifi again, 3 ms after the first attempt. -/
theorem attempts_not_spaced :
    (library lp64).Run .off (restartHistory serverOptions quickLossPolls)
        (restarted serverOptions quickLossPolls) ∧
      ClockMono (restartHistory serverOptions quickLossPolls) ∧
      ¬ AttemptsSpaced (restartHistory serverOptions quickLossPolls) := by
  refine ⟨run_restart _ _, restart_clockMono (by decide), fun hspaced ↦ ?_⟩
  have hlate := hspaced [] _ [_, _] _ [] rfl ⟨_, .tail _ (.head _), rfl⟩ ⟨_, .head _, rfl⟩
    (by decide) (by decide)
  exact absurd hlate (by decide)

end BootstrapWifi
