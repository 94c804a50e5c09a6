import BootstrapWifi.Newest
import BootstrapWifi.RestartRun

namespace BootstrapWifi

open Mealy

variable {L : Layout} {conn : ConnectState} {h stay : List LibraryMove}
  {m m₀ : LibraryMove} {d : Device} {s : Instance} {p : Action → Bool} {v : UInt8}

/-- How often the moves call what `p` selects. -/
def calls (p : Action → Bool) (h : List LibraryMove) : ℕ :=
  (h.flatMap fun m ↦ m.output).countP p

@[simp] theorem calls_nil : calls p [] = 0 := rfl

@[simp] theorem calls_cons : calls p (m :: h) = m.output.countP p + calls p h := by
  rw [calls, List.flatMap_cons, List.countP_append]
  rfl

theorem calls_append {h' : List LibraryMove} : calls p (h ++ h') = calls p h + calls p h' := by
  rw [calls, List.flatMap_append, List.countP_append]
  rfl

theorem calls_eq_length (hall : ∀ m ∈ h, m.output.countP p = 1) : calls p h = h.length := by
  induction h with
  | nil => rfl
  | cons m h ih =>
    rw [calls_cons, hall m List.mem_cons_self, ih fun x hx ↦ hall x (List.mem_cons_of_mem _ hx),
      List.length_cons, Nat.add_comm]

/-- From the entry of bootstrap mode with a stored ssid up to the next mode entry, the wifi is
asked for at most once more than there are retries. -/
def BootstrapAttemptsLimited (v : UInt8) : Prop :=
  ∀ (L : Layout) (h : List LibraryMove) (d : Device), (library L).Run .off h d →
    (∀ m ∈ h, Contained L m) → ∀ later stay m₀ earlier, h = later ++ (stay ++ m₀ :: earlier) →
    .enterWaitForBootstrapMode ∈ m₀.output → m₀.post.inst.ssid.isSome →
    m₀.post.inst.options.retryConnectingToBootstrapNetwork = v → (∀ m ∈ stay, ¬ Resets m) →
    calls Action.isConnectToWifi (stay ++ [m₀]) ≤ v.toNat + 1

/-- The step to `BST_MODE_DESTINATION_CONNECTED` of a device that needs more than the wifi. -/
def AssociatesAdvanced (m : LibraryMove) : Prop :=
  m.pre.inst.state.state ≠ .destinationConnected ∧
    m.post.inst.state.state = .destinationConnected ∧
    m.post.inst.options.needAdvancedConnection = true

/-- From that step on, as long as the mode stays, the advanced connection is asked for at most
once more than there are retries. -/
def AdvancedAttemptsLimited (v : UInt8) : Prop :=
  ∀ (L : Layout) (h : List LibraryMove) (d : Device), (library L).Run .off h d →
    (∀ m ∈ h, Contained L m) → ∀ later stay m₀ earlier, h = later ++ (stay ++ m₀ :: earlier) →
    AssociatesAdvanced m₀ → m₀.post.inst.options.retryConnectingToDestinationNetwork = v →
    (∀ m ∈ stay, m.pre.inst.state.state = .destinationConnected) →
    calls Action.isConnectAdvanced (stay ++ [m₀]) ≤ v.toNat + 1

/-- What a move does that goes back to looking for the bootstrap network. -/
theorem LinkMove.waits (hm : LinkMove m) (hout : .enterWaitForBootstrapMode ∈ m.output) :
    m.post.inst.link = m.post.inst.options.newLink .connectingToBootstrap m.input.now ∧
      m.output.countP Action.isConnectToWifi = 1 := by
  cases hm with
  | entered mode _ _ hl hmode hc =>
    have hmode' : .connectingToBootstrap = mode := modeEntered_unique hmode hout rfl
    rw [← hmode'] at hl
    exact ⟨hl, congrArg CallCounts.connectToWifi hc⟩
  | stopped _ _ _ ho =>
    rw [ho] at hout
    cases hout
  | quiet _ hr => exact absurd (.inr ⟨_, hout, trivial⟩) hr
  | polled conn hs hstep ho =>
    rw [ho]
    generalize m.post.inst.link = l at hstep
    generalize m.output = acts at hstep hout
    cases hstep with
    | destQuit => exact ⟨rfl, rfl⟩
    | destFailed => exact ⟨rfl, rfl⟩
    | advancedQuit => exact ⟨rfl, rfl⟩
    | _ => simp [Instance.greeting, Instance.enterDestinationActions] at hout

/-- While the device looks for the bootstrap network the counter counts the retries. -/
structure BootstrapCount (n : ℕ) (v : UInt8) (o : Options) (l : Link) : Prop where
  mode : l.mode.isBootstrap = true
  options : o.retryConnectingToBootstrapNetwork = v
  count : n = l.attempts.toNat
  limit : l.attempts ≤ v

theorem toNat_add_one {a : UInt8} (hv : v ≠ 255) (ha : a ≤ v) : (a + 1).toNat = a.toNat + 1 := by
  have hlt : v.toNat < 256 := v.toNat_lt
  have hne : v.toNat ≠ 255 := fun h ↦ hv (UInt8.toNat_inj.mp h)
  have hle : a.toNat ≤ v.toNat := ha
  rw [UInt8.toNat_add, UInt8.toNat_one]
  omega

theorem BootstrapCount.step {n : ℕ} (hp : BootstrapCount n v m.pre.inst.options m.pre.inst.link)
    (hv : v ≠ 255) (hs : m.pre.inst.SsidStands true) (hm : LinkMove m) (hr : ¬ Resets m) :
    BootstrapCount (m.output.countP Action.isConnectToWifi + n) v m.post.inst.options
      m.post.inst.link := by
  cases hm with
  | entered _ _ hreset => exact absurd hreset hr
  | stopped _ hreset => exact absurd hreset hr
  | quiet _ _ hl ho hc =>
    have hzero : m.output.countP Action.isConnectToWifi = 0 :=
      congrArg CallCounts.connectToWifi hc
    rwa [hl, ho, hzero, Nat.zero_add]
  | polled conn hseen hstep ho =>
    have hpolls : m.pre.inst.Polls := (seen_eq_some.mp hseen).2
    have hssid : m.pre.inst.ssid.isSome := hs.resolve_right (by simp [hpolls.setWifi])
    rw [resets_iff_of_seen hseen] at hr
    rw [ho]
    have hmode := hp.mode
    rw [Instance.link_mode] at hmode
    generalize m.post.inst.link = l at hstep ⊢
    generalize m.output = acts at hstep hr ⊢
    have silent (hacts : acts.countP Action.isConnectToWifi = 0)
        (hb : l.mode.isBootstrap = true) (ha : l.attempts = m.pre.inst.link.attempts) :
        BootstrapCount (acts.countP Action.isConnectToWifi + n) v m.pre.inst.options l := by
      refine ⟨hb, hp.options, ?_, ?_⟩
      · rw [hacts, Nat.zero_add, ha]
        exact hp.count
      · rw [ha]
        exact hp.limit
    have elsewhere {mode : BstState} (hm : m.pre.inst.state.state = mode)
        (hb : mode.isBootstrap = false) : False := by
      rw [hm, hb] at hmode
      cases hmode
    have greets : m.pre.inst.greeting.countP Action.isConnectToWifi = 0 :=
      List.countP_eq_zero.mpr fun a ha ↦ by simp [(greeting_only a ha).1]
    cases hstep with
    | off => exact silent rfl hmode rfl
    | bootstrapWait => exact silent rfl hmode rfl
    | bootstrapRetry _ _ _ hle =>
      have hcount : m.pre.inst.bootstrapAttempts = m.pre.inst.state.countConnectionAttempts + 1 :=
        if_pos hssid
      rw [hcount]
      have hnext : (m.pre.inst.link.attempts + 1).toNat = n + 1 := by
        rw [toNat_add_one hv hp.limit, hp.count]
      exact ⟨rfl, hp.options, (Nat.add_comm _ _).trans hnext.symm, hp.options ▸ hle hssid⟩
    | greetAgain => exact silent greets hmode rfl
    | dataWait => exact silent greets rfl rfl
    | dataRearm => exact silent greets rfl rfl
    | dataLost => exact silent rfl rfl rfl
    | bootstrapQuit => exact absurd ⟨_, .head _, trivial⟩ hr
    | dataQuit => exact absurd ⟨_, List.mem_append_right _ (.head _), trivial⟩ hr
    | destFailed hd => exact (elsewhere rfl (BstState.isBootstrap_of_isDestination hd)).elim
    | destWait hd | destRetry hd | destQuit hd | associated hd | associatedAdvanced hd
    | associatedTry hd | online hd | advancedTry hd | advancedQuit hd | destLost hd =>
      exact (elsewhere hd rfl).elim

theorem bootstrapAttempts_limited (hv : v ≠ 255) : BootstrapAttemptsLimited v := by
  intro L h d r hfit later stay m₀ earlier he hout hssid hopt hstay
  subst he
  rw [← List.append_assoc] at r hfit
  obtain ⟨-, he, hrun⟩ := r.split
  obtain ⟨u, hrun, -⟩ := hrun.cut
  obtain ⟨hl, hone⟩ := (linkMove_of_eq he (hfit m₀ (by simp))).waits hout
  have hcount : BootstrapCount (calls Action.isConnectToWifi stay) v u.inst.options u.inst.link ∧
      u.inst.SsidStands true := by
    refine hrun.moves_invariant
      (P := fun stay d ↦ BootstrapCount (calls Action.isConnectToWifi stay) v d.inst.options
        d.inst.link ∧ d.inst.SsidStands true)
      (G := fun m ↦ Contained L m ∧ ¬ Resets m) ?_ ?_
      fun m hm ↦ ⟨hfit m (by simp [hm]), hstay m hm⟩
    · rw [hl]
      exact ⟨⟨rfl, hopt, rfl, UInt8.zero_le⟩, .inl hssid⟩
    · intro stay d e hp hg
      obtain ⟨hfit, hr⟩ := hg
      rw [calls_cons]
      exact ⟨hp.1.step hv hp.2 (linkMove d e hfit) hr, hp.2.step hfit.2 hr⟩
  have hle : u.inst.state.countConnectionAttempts.toNat ≤ v.toNat := hcount.1.limit
  rw [calls_append, calls_cons, hone, hcount.1.count]
  exact Nat.add_le_add_right hle 1

/-- In `BST_MODE_DESTINATION_CONNECTED` the counter counts the advanced attempts. -/
structure AdvancedCount (n : ℕ) (v : UInt8) (o : Options) (l : Link) : Prop where
  limit : n ≤ v.toNat + 1
  count : l.mode = .destinationConnected →
    o.retryConnectingToDestinationNetwork = v ∧ n = l.attempts.toNat

theorem AdvancedCount.left {n : ℕ} {o : Options} {l : Link} (hn : n ≤ v.toNat + 1)
    (hl : l.mode ≠ .destinationConnected) : AdvancedCount n v o l :=
  ⟨hn, fun h ↦ absurd h hl⟩

theorem AdvancedCount.step {n : ℕ} (hp : AdvancedCount n v m.pre.inst.options m.pre.inst.link)
    (hv : v ≠ 255) (hm : LinkMove m) (hmode : m.pre.inst.state.state = .destinationConnected) :
    AdvancedCount (m.output.countP Action.isConnectAdvanced + n) v m.post.inst.options
      m.post.inst.link := by
  obtain ⟨hopt, hcount⟩ := hp.count hmode
  cases hm with
  | entered mode _ _ hl hacts hc =>
    have hzero : m.output.countP Action.isConnectAdvanced = 0 :=
      congrArg CallCounts.connectAdvanced hc
    rw [hl, hzero, Nat.zero_add]
    exact .left hp.limit (modeEntered_ne hacts nofun nofun)
  | stopped _ _ hl hout =>
    rw [hout, List.countP_nil, Nat.zero_add]
    exact .left hp.limit (by simp [hl])
  | quiet _ _ hl ho hc =>
    have hzero : m.output.countP Action.isConnectAdvanced = 0 :=
      congrArg CallCounts.connectAdvanced hc
    rwa [hl, ho, hzero, Nat.zero_add]
  | polled conn _ hstep ho =>
    rw [ho]
    have elsewhere {mode : BstState} (hm : m.pre.inst.state.state = mode)
        (hne : mode ≠ .destinationConnected) : False := hne (hm.symm.trans hmode)
    generalize m.post.inst.link = l at hstep ⊢
    generalize m.output = acts at hstep ⊢
    have left (hacts : acts.countP Action.isConnectAdvanced = 0)
        (hl : l.mode ≠ .destinationConnected) :
        AdvancedCount (acts.countP Action.isConnectAdvanced + n) v m.pre.inst.options l := by
      rw [hacts, Nat.zero_add]
      exact .left hp.limit hl
    cases hstep with
    | online =>
      rw [List.countP_nil, Nat.zero_add]
      exact hp
    | advancedTry _ _ _ hle =>
      rw [hopt] at hle
      have hnext : (m.pre.inst.state.countConnectionAttempts + 1).toNat = n + 1 := by
        rw [toNat_add_one hv hle, hcount]
        rfl
      have hlimit : m.pre.inst.state.countConnectionAttempts.toNat ≤ v.toNat := hle
      refine ⟨?_, fun _ ↦ ⟨hopt, (Nat.add_comm _ _).trans hnext.symm⟩⟩
      rw [hcount, Nat.add_comm]
      exact Nat.add_le_add_right hlimit 1
    | destFailed => exact left rfl nofun
    | advancedQuit => exact left rfl nofun
    | destLost => exact left rfl nofun
    | dataWait hb | dataRearm hb | dataQuit hb =>
      rw [hmode] at hb
      cases hb
    | off hm | bootstrapWait hm | bootstrapRetry hm | bootstrapQuit hm | greetAgain hm
    | dataLost hm | destWait hm | destRetry hm | destQuit hm | associated hm
    | associatedAdvanced hm | associatedTry hm => exact (elsewhere hm nofun).elim

theorem LinkMove.associates (hm : LinkMove m) (ha : AssociatesAdvanced m) :
    m.output.countP Action.isConnectAdvanced =
      m.post.inst.state.countConnectionAttempts.toNat ∧
    m.output.countP Action.isConnectAdvanced ≤ 1 := by
  obtain ⟨hpre, hpost, hneed⟩ := ha
  rw [← Instance.link_mode] at hpost
  cases hm with
  | entered mode _ _ hl hacts =>
    rw [hl] at hpost
    exact absurd hpost (modeEntered_ne hacts nofun nofun)
  | stopped _ _ hl => cases hl.symm.trans hpost
  | quiet _ _ hl =>
    rw [hl] at hpost
    exact absurd hpost hpre
  | polled conn _ hstep ho =>
    rw [ho] at hneed
    rw [← Instance.link_attempts]
    generalize m.post.inst.link = l at hstep hpost ⊢
    generalize m.output = acts at hstep ⊢
    cases hstep with
    | associated _ _ hfree => exact absurd hneed (by simp [hfree])
    | associatedAdvanced => exact ⟨rfl, zero_le_one⟩
    | associatedTry => exact ⟨rfl, le_rfl⟩
    | online | advancedTry => exact absurd ‹_› hpre
    | off | bootstrapWait | greetAgain | destWait => exact absurd hpost hpre
    | _ => cases hpost

theorem advancedAttempts_limited (hv : v ≠ 255) : AdvancedAttemptsLimited v := by
  intro L h d r hfit later stay m₀ earlier he ha hopt hstay
  subst he
  rw [← List.append_assoc] at r hfit
  obtain ⟨-, he, hrun⟩ := r.split
  obtain ⟨u, hrun, -⟩ := hrun.cut
  obtain ⟨hcount, hone⟩ := (linkMove_of_eq he (hfit m₀ (by simp))).associates ha
  have hu : AdvancedCount (calls Action.isConnectAdvanced (stay ++ [m₀])) v u.inst.options
      u.inst.link := by
    refine hrun.moves_invariant
      (P := fun stay d ↦ AdvancedCount (calls Action.isConnectAdvanced (stay ++ [m₀])) v
        d.inst.options d.inst.link)
      (G := fun m ↦ Contained L m ∧ m.pre.inst.state.state = .destinationConnected) ?_ ?_
      fun m hm ↦ ⟨hfit m (by simp [hm]), hstay m hm⟩
    · rw [List.nil_append, calls_cons, calls_nil, Nat.add_zero]
      exact ⟨hone.trans (Nat.le_add_left 1 _), fun _ ↦ ⟨hopt, hcount⟩⟩
    · intro stay d e hp hg
      obtain ⟨hfit, hmode⟩ := hg
      rw [List.cons_append, calls_cons]
      exact hp.step hv (linkMove d e hfit) hmode
  exact hu.limit

def tirelessOptions : Options :=
  { sampleOptions with
    needAdvancedConnection := true
    retryConnectingToBootstrapNetwork := 255
    retryConnectingToDestinationNetwork := 255 }

theorem tirelessOptions_ready : tirelessOptions.Ready := ⟨rfl, rfl⟩

/-- One poll whenever the deadline comes. -/
def regularPolls (conn : ConnectState) (n : ℕ) : List (Time × ConnectState) :=
  (List.range' 1 n).map fun k : ℕ ↦ (1000 * (k : Time) + 1, conn)

/-- A device that asks for a connection again whenever its deadline comes. -/
structure Tireless (mode : BstState) (k : ℕ) (s : Instance) : Prop where
  mode : s.state.state = mode
  polls : s.Polls
  ssid : s.ssid.isSome
  options : s.options = tirelessOptions
  deadline : s.state.timeoutConnecting = 1000 * (k : Time) + 1

theorem Tireless.next {mode : BstState} {k : ℕ} (hs : Tireless mode k s) (n : UInt8) :
    Tireless mode (k + 1)
      { s with
        state.countConnectionAttempts := n
        state.timeoutConnecting := 1000 * (k : Time) + 1 + 1000 } :=
  ⟨hs.mode, ⟨hs.polls.ready, hs.polls.factoryReset, hs.polls.bind, hs.polls.wifiList,
    hs.polls.setWifi⟩, hs.ssid, hs.options, by push_cast; ring⟩

theorem le_255 (a : UInt8) : a ≤ 255 :=
  UInt8.le_iff_toNat_le.mpr (Nat.lt_succ_iff.mp a.toNat_lt)

theorem Tireless.poll_bootstrap {k : ℕ} (hs : Tireless .connectingToBootstrap k s) :
    poll (1000 * (k : Time) + 1) .noConnection s =
      ({ s with
        state.countConnectionAttempts := s.state.countConnectionAttempts + 1
        state.timeoutConnecting := 1000 * (k : Time) + 1 + 1000 },
        [.connectToWifi s.bootstrapSsidString (s.options.bootstrapKey.map (·.bytes))]) := by
  have ht : ¬ s.state.timeoutConnecting > 1000 * (k : Time) + 1 := not_lt.mpr hs.deadline.le
  have hssid : ¬ s.ssid.isNone = true := by simpa [Option.isSome_iff_ne_none] using hs.ssid
  have hle : s.state.countConnectionAttempts + 1 ≤
      s.options.retryConnectingToBootstrapNetwork := by
    rw [hs.options]
    exact le_255 _
  have htimeout : s.options.timeoutConnectingStateMs = 1000 := by rw [hs.options]; rfl
  simp only [poll, hs.mode, pollConnectingToBootstrap, ConnectState.isConnected,
    Bool.false_eq_true, if_false]
  rw [if_neg ht, if_neg hssid, if_pos hle, htimeout]
  rfl

theorem Tireless.poll_advanced {k : ℕ} (hs : Tireless .destinationConnected k s) :
    poll (1000 * (k : Time) + 1) .connected s =
      ({ s with
        state.countConnectionAttempts := s.state.countConnectionAttempts + 1
        state.timeoutConnecting := 1000 * (k : Time) + 1 + 1000 },
        [.connectAdvanced s.additionalString]) := by
  have ht : 1000 * (k : Time) + 1 ≥ s.state.timeoutConnecting := hs.deadline.le
  have hneed : s.options.needAdvancedConnection = true := by rw [hs.options]; rfl
  have hle : ¬ s.state.countConnectionAttempts >
      s.options.retryConnectingToDestinationNetwork := by
    rw [hs.options]
    exact UInt8.not_lt.mpr (le_255 _)
  have htimeout : s.options.timeoutConnectingStateMs = 1000 := by rw [hs.options]; rfl
  simp only [poll, hs.mode, pollDestinationConnected]
  rw [if_pos hneed, if_neg hle, if_pos ht, htimeout, add_comm (1000 : Time)]

/-- Every poll of a tireless device asks for a connection, and the next one will. -/
theorem tireless_chain {mode : BstState}
    (hpoll : ∀ k s, Tireless mode k s → ∃ act n, poll (1000 * (k : Time) + 1) conn s =
      ({ s with
        state.countConnectionAttempts := n
        state.timeoutConnecting := 1000 * (k : Time) + 1 + 1000 }, [act]) ∧
      p act = true ∧ ¬ act.EntersMode) (n : ℕ) (hd : Tireless mode 1 d.inst) :
    calls p ((library L).exec d ((regularPolls conn n).map fun p ↦ ⟨p.1, .periodic p.2⟩)).1 = n ∧
      ∀ m ∈ ((library L).exec d ((regularPolls conn n).map fun p ↦ ⟨p.1, .periodic p.2⟩)).1,
        ¬ Resets m ∧ m.pre.inst.state.state = mode := by
  have hchain := (library L).exec_chain
    (P := fun k d ↦ Tireless mode k d.inst)
    (G := fun m ↦ m.output.countP p = 1 ∧ ¬ Resets m ∧ m.pre.inst.state.state = mode)
    (i := fun k : ℕ ↦ ⟨1000 * (k : Time) + 1, .periodic conn⟩) (fun k d hd ↦ ?_) n hd
  · rw [regularPolls, List.map_map]
    obtain ⟨hlen, hall⟩ := hchain
    refine ⟨(calls_eq_length fun m hm ↦ (hall m hm).1).trans hlen, fun m hm ↦ (hall m hm).2⟩
  · obtain ⟨act, count, hp, hact, henters⟩ := hpoll k d.inst hd
    rw [step_periodic L rfl, hd.polls.periodic L, hp]
    refine ⟨hd.next count, ?_, ?_, hd.mode⟩
    · rw [move_output, step_periodic L rfl, hd.polls.periodic L, hp]
      simp [hact]
    · refine not_resets id ?_
      rw [move_output, step_periodic L rfl, hd.polls.periodic L, hp]
      exact List.forall_mem_singleton.mpr henters

/-- With 255 retries there is no limit to the attempts to reach the bootstrap network. -/
theorem tireless_bootstrap (n : ℕ) :
    ∃ stay m₀ earlier,
      restartHistory tirelessOptions ((1, .failedSsidNotFound) :: regularPolls .noConnection n) =
        stay ++ m₀ :: earlier ∧
      .enterWaitForBootstrapMode ∈ m₀.output ∧ m₀.post.inst.ssid.isSome ∧
      m₀.post.inst.options.retryConnectingToBootstrapNetwork = 255 ∧
      (∀ m ∈ stay, ¬ Resets m) ∧ calls Action.isConnectToWifi (stay ++ [m₀]) = n + 1 := by
  have hstart : Tireless .connectingToBootstrap 1
      (restarted tirelessOptions [(1, .failedSsidNotFound)]).inst :=
    ⟨rfl, ⟨⟨rfl, rfl⟩, rfl, rfl, rfl, rfl⟩, rfl, rfl, rfl⟩
  obtain ⟨hcalls, hall⟩ := tireless_chain (L := lp64) (p := Action.isConnectToWifi)
    (fun k s hs ↦ ⟨_, _, hs.poll_bootstrap, rfl, id⟩) n hstart
  refine ⟨_, _, _, restartHistory_append tirelessOptions [(1, .failedSsidNotFound)]
    (regularPolls .noConnection n), .head _, rfl,
    rfl, fun m hm ↦ (hall m hm).1, ?_⟩
  rw [calls_append, hcalls]
  rfl

theorem tireless_advanced (n : ℕ) :
    ∃ stay m₀ earlier,
      restartHistory tirelessOptions ((1, .connected) :: regularPolls .connected n) =
        stay ++ m₀ :: earlier ∧
      AssociatesAdvanced m₀ ∧
      m₀.post.inst.options.retryConnectingToDestinationNetwork = 255 ∧
      (∀ m ∈ stay, m.pre.inst.state.state = .destinationConnected) ∧
      calls Action.isConnectAdvanced (stay ++ [m₀]) = n + 1 := by
  have hstart : Tireless .destinationConnected 1
      (restarted tirelessOptions [(1, .connected)]).inst :=
    ⟨rfl, ⟨⟨rfl, rfl⟩, rfl, rfl, rfl, rfl⟩, rfl, rfl, rfl⟩
  obtain ⟨hcalls, hall⟩ := tireless_chain (L := lp64) (p := Action.isConnectAdvanced)
    (fun k s hs ↦ ⟨_, _, hs.poll_advanced, rfl, id⟩) n hstart
  refine ⟨_, _, _, restartHistory_append tirelessOptions [(1, .connected)]
    (regularPolls .connected n), ⟨nofun, rfl, rfl⟩,
    rfl, fun m hm ↦ (hall m hm).2, ?_⟩
  rw [calls_append, hcalls]
  rfl

/-- The number of attempts is limited unless the limit is the largest value of the counter. -/
theorem attempts_limited_iff (v : UInt8) :
    (BootstrapAttemptsLimited v ↔ v ≠ 255) ∧ (AdvancedAttemptsLimited v ↔ v ≠ 255) := by
  refine ⟨⟨?_, bootstrapAttempts_limited⟩, ⟨?_, advancedAttempts_limited⟩⟩
  · rintro hlimited rfl
    obtain ⟨stay, m₀, earlier, he, hout, hssid, hretry, hstay, hcalls⟩ := tireless_bootstrap 256
    have hle := hlimited lp64 _ _ (run_restart _ _) (restart_contained tirelessOptions_ready)
      [] stay m₀ earlier he hout hssid hretry hstay
    rw [hcalls] at hle
    exact absurd hle (by decide)
  · rintro hlimited rfl
    obtain ⟨stay, m₀, earlier, he, ha, hretry, hstay, hcalls⟩ := tireless_advanced 256
    have hle := hlimited lp64 _ _ (run_restart _ _) (restart_contained tirelessOptions_ready)
      [] stay m₀ earlier he ha hretry hstay
    rw [hcalls] at hle
    exact absurd hle (by decide)

/-- 256 polls make 257 attempts where 256 are allowed. -/
theorem too_many_attempts :
    (library lp64).Run .off
        (restartHistory tirelessOptions
          ((1, .failedSsidNotFound) :: regularPolls .noConnection 256))
        (restarted tirelessOptions
          ((1, .failedSsidNotFound) :: regularPolls .noConnection 256)) ∧
      ∃ stay m₀ earlier,
        restartHistory tirelessOptions
            ((1, .failedSsidNotFound) :: regularPolls .noConnection 256) = stay ++ m₀ :: earlier ∧
        .enterWaitForBootstrapMode ∈ m₀.output ∧ m₀.post.inst.ssid.isSome ∧
        m₀.post.inst.options.retryConnectingToBootstrapNetwork = 255 ∧
        (∀ m ∈ stay, ¬ Resets m) ∧
        ¬ calls Action.isConnectToWifi (stay ++ [m₀]) ≤ (255 : UInt8).toNat + 1 := by
  obtain ⟨stay, m₀, earlier, he, hout, hssid, hretry, hstay, hcalls⟩ := tireless_bootstrap 256
  refine ⟨run_restart _ _, stay, m₀, earlier, he, hout, hssid, hretry, hstay, ?_⟩
  rw [hcalls]
  decide

end BootstrapWifi
