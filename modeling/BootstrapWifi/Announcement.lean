import BootstrapWifi.RestartRun

namespace BootstrapWifi

open Mealy

variable {L : Layout} {conn : ConnectState} {h mid later earlier : List LibraryMove}
  {m m₁ m₂ : LibraryMove} {d : Device}

/-- The device sees the advanced connection while it is looking for the bootstrap network. -/
def GreetsAdvanced (m : LibraryMove) : Prop :=
  seen m = some .connectedAdvanced ∧ m.pre.inst.state.state = .connectingToBootstrap

instance : Decidable (GreetsAdvanced m) := inferInstanceAs (Decidable (_ ∧ _))

/-- A call that announces the connection is done with looking for it, and as long as the
connection stays as it is no second call announces it. -/
structure AnnouncedOnce (h : List LibraryMove) : Prop where
  done : ∀ m ∈ h, Announces m →
    m.post.inst.state.state = .waitingForData ∨ m.post.inst.state.state.isDestination = true
  once : ∀ conn : ConnectState, conn.isConnected = true → ∀ later m₂ mid m₁ earlier,
    h = later ++ m₂ :: (mid ++ m₁ :: earlier) →
    (∀ m ∈ m₂ :: (mid ++ [m₁]), ∀ conn', seen m = some conn' → conn' = conn) →
    (∀ m ∈ mid ++ [m₁], ¬ CallsConnectToWifi m) → ¬ (Announces m₁ ∧ Announces m₂)

theorem LinkMove.announces (hm : LinkMove m) (ha : Announces m) :
    m.pre.inst.state.state = .connectingToBootstrap ∧
      (seen m = some .connected ∧ (m.post.inst.state.state = .waitingForData ∨
        m.post.inst.state.state.isDestination = true) ∨ GreetsAdvanced m) := by
  cases hm with
  | polled conn hs hstep =>
    generalize hl : m.post.inst.link = l at hstep
    generalize hout : m.output = acts at hstep
    have hcalls : Announces m ↔ acts.countP Action.isAnnouncement ≠ 0 := calls_iff hout
    have hacts := hcalls.mp ha
    have hpost : m.post.inst.state.state = l.mode := by rw [← hl]; rfl
    have greets (hg : m.pre.inst.greeting.countP Action.isAnnouncement ≠ 0) :
        m.pre.inst.state.state = .connectingToBootstrap := by
      by_contra hne
      rw [Instance.greeting, if_neg hne] at hg
      exact hg rfl
    cases hstep with
    | greetAgain hmode hconn => exact ⟨hmode, .inr ⟨hconn ▸ hs, hmode⟩⟩
    | dataWait _ hconn => exact ⟨greets hacts, .inl ⟨hconn ▸ hs, .inl hpost⟩⟩
    | dataRearm _ hconn => exact ⟨greets hacts, .inl ⟨hconn ▸ hs, .inl hpost⟩⟩
    | dataQuit _ hconn =>
      rw [List.countP_append] at hacts
      exact ⟨greets hacts, .inl ⟨hconn ▸ hs, .inr (by rw [hpost]; rfl)⟩⟩
    | _ => exact absurd rfl hacts
  | entered _ _ _ _ _ hc =>
    exact absurd (congrArg CallCounts.announcements hc) ((calls_iff rfl).mp ha)
  | stopped _ _ _ hout =>
    rw [Announces, hout] at ha
    simp at ha
  | quiet _ _ _ _ hc =>
    exact absurd (congrArg CallCounts.announcements hc) ((calls_iff rfl).mp ha)

/-- A device that sees an ordinary connection stays away from looking for one, as long as it
does not ask for another. -/
theorem LinkMove.stays (hm : LinkMove m) (hseen : ∀ conn, seen m = some conn → conn = .connected)
    (hc : ¬ CallsConnectToWifi m) (hp : m.pre.inst.state.state ≠ .connectingToBootstrap) :
    m.post.inst.state.state ≠ .connectingToBootstrap := by
  rw [CallsConnectToWifi, calls_iff rfl, not_not] at hc
  cases hm with
  | entered _ _ _ _ _ hcounts =>
    exact absurd ((congrArg CallCounts.connectToWifi hcounts).symm.trans hc) one_ne_zero
  | stopped _ _ hl => simp [hl]
  | quiet _ _ hl => rwa [← Instance.link_mode, hl]
  | polled conn hs hstep =>
    rw [← Instance.link_mode]
    cases hseen conn hs
    generalize m.post.inst.link = l at hstep
    generalize m.output = acts at hstep hc
    cases hstep with
    | off => exact hp
    | bootstrapWait => exact hp
    | greetAgain => exact hp
    | destWait => exact hp
    | online => exact hp
    | dataLost _ hlost => exact absurd rfl hlost
    | bootstrapRetry => cases hc
    | bootstrapQuit => cases hc
    | destQuit => cases hc
    | destFailed => cases hc
    | advancedQuit => cases hc
    | _ => simp [Options.newLink]

theorem GreetsAdvanced.keepsLooking (hg : GreetsAdvanced m)
    (he : m = (library L).move m.pre m.input) :
    Announces m ∧ m.post.inst.state.state = .connectingToBootstrap := by
  obtain ⟨hseen, hmode⟩ := hg
  obtain ⟨hpost, hout⟩ := move_of_seen hseen he
  have hpoll : poll m.input.now .connectedAdvanced m.pre.inst =
      ({ m.pre.inst with state.state := .connectingToBootstrap },
        [.connectedToBootstrapNetwork, .sendMessage .hello]) := by
    simp only [poll, hmode, pollConnectingToBootstrap, ConnectState.isConnected, if_true]
    rw [pollWaitingForData_lost (by decide)]
  refine ⟨⟨.connectedToBootstrapNetwork, ?_, rfl⟩, ?_⟩
  · rw [hout, hpoll]
    exact .head _
  · rw [hpost, hpoll]

/-- The bootstrap connection is announced once unless the advanced connection is up while the
device looks for the bootstrap network. -/
theorem announced_once_iff (r : (library L).Run .off h d) (hfit : ∀ m ∈ h, Contained L m) :
    AnnouncedOnce h ↔ ∀ m ∈ h, ¬ GreetsAdvanced m := by
  have move (m : LibraryMove) (hm : m ∈ h) : m = (library L).move m.pre m.input ∧ LinkMove m :=
    linkMove_of_run r hfit hm
  constructor
  · intro ho m hm hg
    obtain ⟨ha, hmode⟩ := hg.keepsLooking (move m hm).1
    have hdone := ho.done m hm ha
    rw [hmode] at hdone
    exact absurd hdone (by decide)
  · intro hall
    have announced (m : LibraryMove) (hm : m ∈ h) (ha : Announces m) :
        m.pre.inst.state.state = .connectingToBootstrap ∧ seen m = some .connected ∧
          (m.post.inst.state.state = .waitingForData ∨
            m.post.inst.state.state.isDestination = true) := by
      obtain ⟨hpre, hpost⟩ := (move m hm).2.announces ha
      exact ⟨hpre, hpost.resolve_right (hall m hm)⟩
    refine ⟨fun m hm ha ↦ (announced m hm ha).2.2, ?_⟩
    intro conn hconn later m₂ mid m₁ earlier he hseen hcalls hboth
    subst he
    obtain ⟨hr, he₂, -⟩ := r.split
    obtain ⟨-, -, hmid⟩ := hr.split
    obtain ⟨-, hseen₁, hpost₁⟩ := announced m₁ (by simp) hboth.1
    have hconnected : conn = .connected := (hseen m₁ (by simp) _ hseen₁).symm
    have hstart : m₁.post.inst.state.state ≠ .connectingToBootstrap := by
      intro hm
      rw [hm] at hpost₁
      exact absurd hpost₁ (by decide)
    have hstay : m₂.pre.inst.state.state ≠ .connectingToBootstrap :=
      hmid.keeps (P := fun d ↦ d.inst.state.state ≠ .connectingToBootstrap) hstart
        fun m hm _ hp ↦ (move m (by simp [hm])).2.stays
          (fun c hs ↦ (hseen m (by simp [hm]) c hs).trans hconnected)
          (hcalls m (by simp [hm])) hp
    exact hstay (announced m₂ (by simp) hboth.2).1

/-- A device that has given up its destination network, found its bootstrap network and keeps
its connection. -/
def bootstrapPolls : List (Time × ConnectState) :=
  [(2, .failedSsidNotFound), (3, .connected), (4, .connected)]

theorem sample_announced_once : AnnouncedOnce (restartHistory sampleOptions bootstrapPolls) :=
  (announced_once_iff (run_restart _ _) (restart_contained sampleOptions_ready)).mpr (by decide)

def upgradedPolls : List (Time × ConnectState) :=
  [(2, .failedSsidNotFound), (3, .connectedAdvanced), (4, .connectedAdvanced)]

/-- With the advanced connection up, every poll announces the bootstrap connection again. -/
theorem announced_twice :
    (library lp64).Run .off (restartHistory sampleOptions upgradedPolls)
        (restarted sampleOptions upgradedPolls) ∧
      (∃ m₂ m₁ earlier, restartHistory sampleOptions upgradedPolls = m₂ :: m₁ :: earlier ∧
        seen m₁ = some .connectedAdvanced ∧ seen m₂ = some .connectedAdvanced ∧
        ¬ CallsConnectToWifi m₁ ∧ Announces m₁ ∧ Announces m₂) ∧
      ¬ AnnouncedOnce (restartHistory sampleOptions upgradedPolls) := by
  refine ⟨run_restart _ _, ⟨_, _, _, rfl, rfl, rfl, ?_, ⟨_, .head _, rfl⟩, ⟨_, .head _, rfl⟩⟩, ?_⟩
  · exact (calls_iff rfl).not.mpr (by decide)
  · intro ho
    have hdone := ho.done _ (.head _) ⟨_, .head _, rfl⟩
    exact absurd hdone (by decide)

end BootstrapWifi
