import BootstrapWifi.LiveSession
import BootstrapWifi.RestartRun
import BootstrapWifi.SessionRenewal

namespace BootstrapWifi

open Mealy

variable {L : Layout} {now : Time} {h later earlier : List LibraryMove} {m m₀ x : LibraryMove}
  {d : Device} {e : Event} {s : Instance}

/-- The call finds the bootstrap network and starts to wait for data. -/
def EntersWaiting (m : LibraryMove) : Prop :=
  seen m = some .connected ∧ m.pre.inst.state.state = .connectingToBootstrap

/-- The call stops waiting for data as there is no session. -/
def LeavesWaiting (m : LibraryMove) : Prop :=
  seen m = some .connected ∧ m.pre.inst.state.state.isBootstrap = true ∧
    .enterBootstrappedMode ∈ m.output

/-- Whoever leaves has waited for an interval. -/
def FullWait (h : List LibraryMove) : Prop :=
  ∀ later x earlier, h = later ++ x :: earlier → LeavesWaiting x →
    Newest EntersWaiting
      (fun m ↦ m.input.now + x.pre.inst.options.timeoutConnectingStateMs ≤ x.input.now)
      (x :: earlier)

/-- The deadline of the connection attempt leaves an interval for waiting, is armed anew at
once, or cannot take effect before the session in progress has lasted that long. -/
def KeepsInterval (m : LibraryMove) : Prop :=
  m.pre.inst.options.timeoutConnectingStateMs ≤ 0 ∨
    m.pre.inst.options.nextDeadline m.input.now ≤ m.pre.inst.state.timeoutConnecting ∨
    (m.pre.inst.state.timeoutConnecting ≤ m.input.now ∧
      m.input.now ≤ m.pre.inst.state.timeNonceValid) ∨
    (m.pre.inst.state.timeNonceValid ≠ 0 ∧
      m.pre.inst.options.nextDeadline m.input.now ≤ m.pre.inst.state.timeNonceValid + 1)

instance : Decidable (EntersWaiting m) := inferInstanceAs (Decidable (_ ∧ _))

instance : Decidable (KeepsInterval m) := inferInstanceAs (Decidable (_ ∨ _ ∨ _ ∨ _))

theorem poll_bootstrap_connected (hb : s.state.state.isBootstrap = true) :
    poll now .connected s =
      ((pollWaitingForData now .connected { s with state.state := .waitingForData }).1,
        s.greeting ++
          (pollWaitingForData now .connected { s with state.state := .waitingForData }).2) := by
  rcases BstState.isBootstrap_iff.mp hb with hm | hm
  · simp only [poll, hm, Instance.greeting, if_true, pollConnectingToBootstrap,
      ConnectState.isConnected]
    rfl
  · have hsame : { s with state.state := .waitingForData } = s := by rw [← hm]
    rw [hsame]
    simp only [poll, hm, Instance.greeting, reduceCtorEq, if_false, List.nil_append]

theorem leaves_iff (he : x = (library L).move x.pre x.input) (hseen : seen x = some .connected)
    (hb : x.pre.inst.state.state.isBootstrap = true) :
    LeavesWaiting x ↔ WaitedInVain x.input.now x.pre.inst := by
  have hout : LeavesWaiting x ↔ .enterBootstrappedMode ∈ x.output :=
    ⟨fun hx ↦ hx.2.2, fun hx ↦ ⟨hseen, hb, hx⟩⟩
  have hgreet : .enterBootstrappedMode ∉ x.pre.inst.greeting := fun hm ↦
    (greeting_only _ hm).2 trivial
  rw [hout, (move_of_seen hseen he).2, poll_bootstrap_connected hb, pollWaitingForData_connected]
  by_cases ht : x.input.now < x.pre.inst.state.timeoutConnecting
  · rw [if_pos ht, List.append_nil]
    exact iff_of_false hgreet fun hw ↦ absurd hw.deadline (not_le.mpr ht)
  rw [if_neg ht]
  by_cases hq : x.pre.inst.ssid.isSome ∧ x.pre.inst.state.timeNonceValid < x.input.now
  · rw [if_pos hq]
    exact iff_of_true (List.mem_append_right _ (.head _)) ⟨hq.1, not_lt.mp ht, hq.2⟩
  · rw [if_neg hq, List.append_nil]
    exact iff_of_false hgreet fun hw ↦ hq ⟨hw.stored, hw.session⟩

/-- Nothing can take the device out of its waiting that began with `m` before an interval
is over. -/
def WaitsFor (h : List LibraryMove) (s : Instance) (m : LibraryMove) : Prop :=
  s.SsidStands false ∨ s.options.nextDeadline m.input.now ≤ s.state.timeoutConnecting ∨
    (∃ y ∈ h, s.state.timeNonceValid = s.nextExpiry y.input.now ∧
      s.options.nextDeadline m.input.now ≤ s.state.timeNonceValid + 1) ∨
    ∃ y ∈ h, s.options.nextDeadline m.input.now ≤ y.input.now

theorem WaitsFor.carry (hw : WaitsFor h d.inst m) (hfit : Contained L ((library L).move d e))
    (hbefore : ∀ y ∈ h, y.input.now ≤ e.now) (hr : ¬ Resets ((library L).move d e))
    (hdeadline : ((library L).step e d).1.inst.state.timeoutConnecting =
      d.inst.state.timeoutConnecting)
    (hopt : ((library L).step e d).1.inst.options = d.inst.options) :
    WaitsFor ((library L).move d e :: h) ((library L).step e d).1.inst m := by
  have hexp (t : Time) : ((library L).step e d).1.inst.nextExpiry t = d.inst.nextExpiry t := by
    unfold Instance.nextExpiry
    rw [hopt]
  simp only [WaitsFor, hdeadline, hopt, hexp]
  rcases hw with hssid | hle | ⟨y, hy, hexpiry, hle⟩ | ⟨y, hy, hle⟩
  · exact .inl (hssid.step hfit.2 hr)
  · exact .inr (.inl hle)
  · have keep (ht : ((library L).step e d).1.inst.state.timeNonceValid =
        d.inst.state.timeNonceValid) :
        ∃ y ∈ (library L).move d e :: h, ((library L).step e d).1.inst.state.timeNonceValid =
            d.inst.nextExpiry y.input.now ∧ d.inst.options.nextDeadline m.input.now ≤
          ((library L).step e d).1.inst.state.timeNonceValid + 1 := by
      rw [ht]
      exact ⟨y, List.mem_cons_of_mem _ hy, hexpiry, hle⟩
    cases sessionMove d e hfit with
    | renewed _ ht =>
      have hlater : d.inst.nextExpiry y.input.now ≤ d.inst.nextExpiry e.now :=
        Int.add_le_add_right (hbefore y hy) _
      refine .inr (.inr (.inl ⟨(library L).move d e, List.mem_cons_self, ht, ?_⟩))
      rw [hexpiry] at hle
      exact hle.trans (Int.add_le_add_right (hlater.trans_eq ht.symm) 1)
    | served _ _ ht => exact .inr (.inr (.inl (keep ht)))
    | kept _ ht => exact .inr (.inr (.inl (keep ht)))
    | ended _ _ hwhy =>
      have hover : d.inst.state.timeNonceValid + 1 ≤ e.now := hwhy.resolve_left hr
      exact .inr (.inr (.inr ⟨(library L).move d e, List.mem_cons_self, hle.trans hover⟩))
  · exact .inr (.inr (.inr ⟨y, List.mem_cons_of_mem _ hy, hle⟩))

/-- A session that is not closed was opened or renewed by an earlier call. -/
def SessionDated (h : List LibraryMove) (s : Instance) : Prop :=
  s.state.timeNonceValid = 0 ∨ ∃ y ∈ h, s.state.timeNonceValid = s.nextExpiry y.input.now

theorem SessionDated.step (hs : SessionDated h m.pre.inst) (hm : SessionMove L m) :
    SessionDated (m :: h) m.post.inst := by
  unfold SessionDated Instance.nextExpiry at hs ⊢
  cases hm with
  | renewed _ ht ho => exact .inr ⟨m, List.mem_cons_self, by rw [ht, Instance.nextExpiry, ho]⟩
  | ended _ ht => exact .inl ht
  | served _ _ ht ho | kept _ ht ho =>
    rw [ht, ho]
    refine hs.imp_right fun hdated ↦ ?_
    obtain ⟨y, hy, he⟩ := hdated
    exact ⟨y, List.mem_cons_of_mem _ hy, he⟩

/-- How a call that keeps the interval begins to wait. -/
theorem KeepsInterval.waitsFor (hk : m.pre.inst.ssid.isSome → KeepsInterval m)
    (hdated : SessionDated h m.pre.inst) (ht : m.input.now < m.pre.inst.state.timeoutConnecting) :
    m.pre.inst.options.timeoutConnectingStateMs ≤ 0 ∨ WaitsFor h m.pre.inst m := by
  cases hssid : m.pre.inst.ssid.isSome with
  | false => exact .inr (.inl (.inl hssid))
  | true =>
    rcases hk hssid with hneg | hle | ⟨hlate, -⟩ | ⟨hne, hle⟩
    · exact .inl hneg
    · exact .inr (.inr (.inl hle))
    · exact absurd hlate (not_le.mpr ht)
    · obtain ⟨y, hy, hexpiry⟩ := hdated.resolve_left hne
      exact .inr (.inr (.inr (.inl ⟨y, hy, hexpiry, hle⟩)))

/-- While the device waits for data its waiting began with the newest call that says so. -/
def Waiting (h : List LibraryMove) (s : Instance) : Prop :=
  s.state.state = .waitingForData → Newest EntersWaiting (WaitsFor h s) h

/-- The newest call that says so stays the same while the device waits. -/
theorem Waiting.older (hp : Waiting h m.pre.inst) (hmode : m.pre.inst.state.state = .waitingForData)
    (hcarry : ∀ m₀ ∈ h, WaitsFor h m.pre.inst m₀ → WaitsFor (m :: h) m.post.inst m₀) :
    Newest EntersWaiting (WaitsFor (m :: h) m.post.inst) (m :: h) := by
  have hold : ¬ EntersWaiting m := fun hx ↦ by cases hmode.symm.trans hx.2
  rw [newest_cons_of_not hold]
  exact (hp hmode).mono fun m₀ hm₀ _ hw ↦ hcarry m₀ hm₀ hw

theorem Waiting.step (hp : Waiting h d.inst) (hdated : SessionDated h d.inst)
    (hfit : Contained L ((library L).move d e)) (hbefore : ∀ y ∈ h, y.input.now ≤ e.now)
    (hk : EntersWaiting ((library L).move d e) → d.inst.ssid.isSome →
      KeepsInterval ((library L).move d e)) :
    Waiting ((library L).move d e :: h) ((library L).step e d).1.inst := by
  intro hwait
  have older := Waiting.older (m := (library L).move d e) hp
  have hwait' : ((library L).move d e).post.inst.link.mode = .waitingForData := hwait
  cases linkMove d e hfit with
  | entered mode _ _ hl hacts =>
    rw [hl] at hwait'
    exact absurd hwait' (modeEntered_ne hacts nofun nofun)
  | stopped _ _ hl => cases hl.symm.trans hwait
  | quiet _ hr hl ho =>
    rw [hl] at hwait'
    have hdeadline := congrArg Link.deadline hl
    exact older hwait' fun m₀ _ hw ↦ hw.carry hfit hbefore hr hdeadline ho
  | polled conn hs hstep ho =>
    generalize hl : ((library L).move d e).post.inst.link = l at hstep hwait'
    generalize hout : ((library L).move d e).output = acts at hstep
    cases hstep with
    | dataWait hb hconn ht =>
      have hdeadline := congrArg Link.deadline hl
      have hreset := not_resets_of_seen hs hout fun a ha ↦ (greeting_only a ha).2
      rcases BstState.isBootstrap_iff.mp hb with hmode | hmode
      · have henters : EntersWaiting ((library L).move d e) := ⟨hconn ▸ hs, hmode⟩
        rw [newest_cons_of henters]
        rcases KeepsInterval.waitsFor (hk henters) hdated ht with hneg | hw
        · refine .inr (.inr (.inr ⟨(library L).move d e, List.mem_cons_self, ?_⟩))
          rw [show ((library L).step e d).1.inst.options = d.inst.options from ho]
          exact add_le_of_nonpos_right hneg
        · exact hw.carry hfit hbefore hreset hdeadline ho
      · exact older hmode fun m₀ _ hw ↦ hw.carry hfit hbefore hreset hdeadline ho
    | dataRearm hb hconn =>
      have hrearmed (m₀ : LibraryMove) (hm₀ : m₀.input.now ≤ e.now) :
          WaitsFor ((library L).move d e :: h) ((library L).step e d).1.inst m₀ := by
        have hdeadline : ((library L).step e d).1.inst.state.timeoutConnecting =
            d.inst.options.nextDeadline e.now := congrArg Link.deadline hl
        right
        left
        rw [hdeadline, show ((library L).step e d).1.inst.options = d.inst.options from ho]
        exact Int.add_le_add_right hm₀ _
      rcases BstState.isBootstrap_iff.mp hb with hmode | hmode
      · have henters : EntersWaiting ((library L).move d e) := ⟨hconn ▸ hs, hmode⟩
        exact (newest_cons_of henters).mpr (hrearmed _ le_rfl)
      · exact older hmode fun m₀ hm₀ _ ↦ hrearmed m₀ (hbefore m₀ hm₀)
    | off hm | bootstrapWait hm | greetAgain hm | destWait hm | online hm =>
      cases hm.symm.trans hwait'
    | _ => cases hwait'

theorem waiting_of_run (r : (library L).Run .off h d) (hclock : ClockMono h)
    (hfit : ∀ m ∈ h, Contained L m)
    (hk : ∀ m ∈ h, EntersWaiting m → m.pre.inst.ssid.isSome → KeepsInterval m) :
    SessionDated h d.inst ∧ Waiting h d.inst := by
  refine r.history_invariant (P := fun h d ↦ SessionDated h d.inst ∧ Waiting h d.inst)
    (G := fun h ↦ ClockMono h ∧ ∀ m ∈ h, Contained L m ∧
      (EntersWaiting m → m.pre.inst.ssid.isSome → KeepsInterval m))
    ⟨.inl rfl, fun hm ↦ absurd hm (by decide)⟩ ?_
    (fun m h hg ↦ ⟨(List.pairwise_cons.mp hg.1).2, fun x hx ↦ hg.2 x (List.mem_cons_of_mem _ hx)⟩)
    ⟨hclock, fun m hm ↦ ⟨hfit m hm, hk m hm⟩⟩
  intro h d e _ hp hg
  obtain ⟨hfit, hk⟩ := hg.2 _ List.mem_cons_self
  exact ⟨hp.1.step (sessionMove d e hfit),
    hp.2.step hp.1 hfit (List.pairwise_cons.mp hg.1).1 hk⟩

/-- Whoever leaves has waited, if every call that begins to wait keeps the interval. -/
theorem fullWait_of_run (r : (library L).Run .off h d) (hclock : ClockMono h)
    (hfit : ∀ m ∈ h, Contained L m)
    (hk : ∀ m ∈ h, EntersWaiting m → m.pre.inst.ssid.isSome → KeepsInterval m) : FullWait h := by
  intro later x earlier he hx
  subst he
  obtain ⟨hr, he, -⟩ := r.split
  obtain ⟨hseen, hb, hout⟩ := hx
  have hvain : WaitedInVain x.input.now x.pre.inst :=
    (leaves_iff he hseen hb).mp ⟨hseen, hb, hout⟩
  have hbefore := List.pairwise_cons.mp (List.pairwise_append.mp hclock).2.1
  have hsession : x.pre.inst.state.timeNonceValid + 1 ≤ x.input.now := hvain.session
  rcases BstState.isBootstrap_iff.mp hb with hmode | hmode
  · rw [newest_cons_of ⟨hseen, hmode⟩]
    rcases hk x (by simp) ⟨hseen, hmode⟩ hvain.stored with hneg | hle | ⟨-, hvalid⟩ | ⟨-, hle⟩
    · exact add_le_of_nonpos_right hneg
    · exact hle.trans hvain.deadline
    · exact absurd hvalid (not_le.mpr hvain.session)
    · exact hle.trans hsession
  · have hwaiting := (waiting_of_run hr hbefore.2 (fun m hm ↦ hfit m (by simp [hm]))
      fun m hm ↦ hk m (by simp [hm])).2 hmode
    rw [newest_cons_of_not fun hx ↦ by cases hmode.symm.trans hx.2]
    refine hwaiting.mono fun m hm _ hw ↦ ?_
    rcases hw with hssid | hle | ⟨y, -, -, hle⟩ | ⟨y, hy, hle⟩
    · have hpolls : x.pre.inst.Polls := (seen_eq_some.mp hseen).2
      have hnone : x.pre.inst.ssid.isSome = false := hssid.resolve_right (by simp [hpolls.setWifi])
      exact absurd hvain.stored (by simp [hnone])
    · exact hle.trans hvain.deadline
    · exact hle.trans hsession
    · exact hle.trans (hbefore.1 y hy)

/-- The last call of the run leaves without having waited for an interval. -/
def EndsEarly (h : List LibraryMove) : Prop :=
  ∃ x earlier, h = x :: earlier ∧ LeavesWaiting x ∧
    ¬ Newest EntersWaiting
      (fun m ↦ m.input.now + x.pre.inst.options.timeoutConnectingStateMs ≤ x.input.now) h

theorem poll_waits (hm : s.state.state = .connectingToBootstrap)
    (ht : now < s.state.timeoutConnecting) :
    (poll now .connected s).1 = { s with state.state := .waitingForData } := by
  have hb : s.state.state.isBootstrap = true := by
    rw [hm]
    rfl
  rw [poll_bootstrap_connected hb, pollWaitingForData_connected, if_pos ht]

/-- A call that does not keep the interval leaves at once, or the next poll can. -/
theorem ends_early (r : (library L).Run .off (m :: earlier) d)
    (hclock : ClockMono (m :: earlier)) (hx : EntersWaiting m)
    (hssid : m.pre.inst.ssid.isSome) (hpos : 1 ≤ m.input.now) (hk : ¬ KeepsInterval m) :
    EndsEarly (m :: earlier) ∨
      ∃ x, (library L).Run .off (x :: m :: earlier) x.post ∧ ClockMono (x :: m :: earlier) ∧
        Contained L x ∧ EndsEarly (x :: m :: earlier) := by
  obtain ⟨-, he, hd⟩ := r.last
  obtain ⟨hseen, hmode⟩ := hx
  have hb : m.pre.inst.state.state.isBootstrap = true := by
    rw [hmode]
    rfl
  obtain ⟨hneg, hshort, hlate, hsession⟩ :
      0 < m.pre.inst.options.timeoutConnectingStateMs ∧
      m.pre.inst.state.timeoutConnecting < m.pre.inst.options.nextDeadline m.input.now ∧
      (m.pre.inst.state.timeoutConnecting ≤ m.input.now →
        m.pre.inst.state.timeNonceValid < m.input.now) ∧
      (m.pre.inst.state.timeNonceValid ≠ 0 →
        m.pre.inst.state.timeNonceValid + 1 < m.pre.inst.options.nextDeadline m.input.now) := by
    simpa [KeepsInterval] using hk
  have hlonger : m.input.now < m.pre.inst.options.nextDeadline m.input.now :=
    lt_add_of_pos_right _ hneg
  by_cases ht : m.pre.inst.state.timeoutConnecting ≤ m.input.now
  · left
    refine ⟨m, earlier, rfl, (leaves_iff he hseen hb).mpr ⟨hssid, ht, hlate ht⟩, fun hn ↦ ?_⟩
    exact absurd ((newest_cons_of ⟨hseen, hmode⟩).mp hn) (not_le.mpr hlonger)
  · right
    have hpost : m.post.inst = { m.pre.inst with state.state := .waitingForData } :=
      (move_of_seen hseen he).1.trans (poll_waits hmode (not_le.mp ht))
    -- the first moment at which both the deadline and the session are over
    let t : Time := max m.pre.inst.state.timeoutConnecting (m.pre.inst.state.timeNonceValid + 1)
    have hafter : m.input.now ≤ t := (not_le.mp ht).le.trans (le_max_left _ _)
    have hbefore : t < m.pre.inst.options.nextDeadline m.input.now := by
      refine max_lt hshort ?_
      by_cases hzero : m.pre.inst.state.timeNonceValid = 0
      · rw [hzero]
        exact hpos.trans_lt hlonger
      · exact hsession hzero
    have hpolls : m.pre.inst.Polls := (seen_eq_some.mp hseen).2
    have hseen' : seen ((library L).move m.post ⟨t, .periodic .connected⟩) = some .connected := by
      refine seen_eq_some.mpr ⟨rfl, ?_⟩
      rw [move_pre, hpost]
      exact ⟨hpolls.ready, hpolls.factoryReset, hpolls.bind, hpolls.wifiList, hpolls.setWifi⟩
    have hvain : WaitedInVain t m.post.inst := by
      rw [hpost]
      exact ⟨hssid, le_max_left _ _, Int.lt_of_add_one_le (le_max_right _ _)⟩
    have hb' : m.post.inst.state.state.isBootstrap = true := by
      rw [hpost]
      rfl
    refine ⟨(library L).move m.post ⟨t, .periodic .connected⟩, ?_, ?_, ?_,
      _, _, rfl, (leaves_iff rfl hseen' hb').mpr hvain, fun hn ↦ ?_⟩
    · rw [hd] at r
      exact r.snoc _
    · refine List.pairwise_cons.mpr ⟨List.forall_mem_cons.mpr ⟨hafter, fun y hy ↦ ?_⟩, hclock⟩
      exact ((List.pairwise_cons.mp hclock).1 y hy).trans hafter
    · exact ⟨setup_of_not id, bindFits_of_call nofun⟩
    · have hold : ¬ EntersWaiting ((library L).move m.post ⟨t, .periodic .connected⟩) := by
        rintro ⟨-, hm⟩
        rw [move_pre, hpost] at hm
        cases hm
      have hle := (newest_cons_of ⟨hseen, hmode⟩).mp ((newest_cons_of_not hold).mp hn)
      rw [move_pre, hpost] at hle
      exact absurd hle (not_le.mpr hbefore)

/-- The app gets a full interval if no call begins to wait on a deadline that is too near, and
wherever one does the app can be left too early. -/
theorem full_wait (r : (library L).Run .off h d) (hclock : ClockMono h)
    (hfit : ∀ m ∈ h, Contained L m) :
    ((∀ m ∈ h, EntersWaiting m → m.pre.inst.ssid.isSome → KeepsInterval m) → FullWait h) ∧
      ∀ m earlier, h = m :: earlier → EntersWaiting m → m.pre.inst.ssid.isSome →
        1 ≤ m.input.now → ¬ KeepsInterval m →
        EndsEarly h ∨ ∃ x, (library L).Run .off (x :: h) x.post ∧ ClockMono (x :: h) ∧
          Contained L x ∧ EndsEarly (x :: h) := by
  refine ⟨fullWait_of_run r hclock hfit, ?_⟩
  rintro m earlier rfl hx hssid hpos hk
  exact ends_early r hclock hx hssid hpos hk

/-- The bootstrap network is there at once, and the device waits till its deadline. -/
def promptPolls : List (Time × ConnectState) :=
  [(2, .failedSsidNotFound), (2, .connected), (1002, .connected)]

theorem sample_full_wait :
    ∃ x earlier, restartHistory sampleOptions promptPolls = x :: earlier ∧ LeavesWaiting x ∧
      Newest EntersWaiting
        (fun m ↦ m.input.now + x.pre.inst.options.timeoutConnectingStateMs ≤ x.input.now)
        (x :: earlier) := by
  have hkeeps : ∀ m ∈ restartHistory sampleOptions promptPolls,
      EntersWaiting m → m.pre.inst.ssid.isSome → KeepsInterval m := by decide
  have hfull : FullWait (restartHistory sampleOptions promptPolls) :=
    (full_wait (run_restart _ _) (restart_clockMono (by decide))
      (restart_contained sampleOptions_ready)).1 hkeeps
  exact ⟨_, _, rfl, ⟨rfl, rfl, .head _⟩, hfull [] _ _ rfl ⟨rfl, rfl, .head _⟩⟩

/-- The bootstrap network is found just before the deadline. -/
def latePolls : List (Time × ConnectState) :=
  [(2, .failedSsidNotFound), (1001, .connected), (1002, .connected)]

/-- The device says HELLO at time 1001, and is gone at time 1002. -/
theorem app_left_early :
    (library lp64).Run .off (restartHistory sampleOptions latePolls)
        (restarted sampleOptions latePolls) ∧
      ClockMono (restartHistory sampleOptions latePolls) ∧
      EndsEarly (restartHistory sampleOptions latePolls) ∧
      ¬ FullWait (restartHistory sampleOptions latePolls) := by
  have hends : EndsEarly (restartHistory sampleOptions latePolls) := by
    refine ⟨_, _, rfl, ⟨rfl, rfl, .head _⟩, fun hn ↦ ?_⟩
    have hentered := (newest_cons_of ⟨rfl, rfl⟩).mp ((newest_cons_of_not (by decide)).mp hn)
    exact absurd hentered (by decide)
  refine ⟨run_restart _ _, restart_clockMono (by decide), hends, fun hfull ↦ ?_⟩
  obtain ⟨x, earlier, he, hx, hnot⟩ := hends
  rw [he] at hfull hnot
  exact hnot (hfull [] x earlier rfl hx)

end BootstrapWifi
