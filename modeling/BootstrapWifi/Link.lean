import BootstrapWifi.PeriodicEffect

namespace BootstrapWifi

variable {now : Time} {conn : ConnectState} {s : Instance}

/-- What the library remembers of the connection it is after. -/
structure Link where
  mode : BstState
  attempts : UInt8
  deadline : Time
deriving DecidableEq

def Instance.link (s : Instance) : Link :=
  ⟨s.state.state, s.state.countConnectionAttempts, s.state.timeoutConnecting⟩

@[simp] theorem Instance.link_mode (s : Instance) : s.link.mode = s.state.state := rfl

@[simp] theorem Instance.link_attempts (s : Instance) :
    s.link.attempts = s.state.countConnectionAttempts := rfl

@[simp] theorem Instance.link_deadline (s : Instance) :
    s.link.deadline = s.state.timeoutConnecting := rfl

def Options.nextDeadline (o : Options) (now : Time) : Time := now + o.timeoutConnectingStateMs

/-- The link that a mode entry leaves behind. -/
def Options.newLink (o : Options) (mode : BstState) (now : Time) : Link :=
  ⟨mode, 0, o.nextDeadline now⟩

def ConnectState.isFailure : ConnectState → Bool
  | .failedSsidNotFound | .failedCredentialsWrong | .failedAdvanced => true
  | _ => false

def ConnectState.isLost : ConnectState → Bool
  | .connecting | .noConnection => true
  | _ => false

theorem ConnectState.isConnected_of_isLost (hl : conn.isLost = true) :
    conn.isConnected = false := by
  cases conn with
  | connecting => rfl
  | noConnection => rfl
  | _ => cases hl

/-- What a device says that gets onto the bootstrap network. -/
def Instance.greeting (s : Instance) : List Action :=
  if s.state.state = .connectingToBootstrap then
    [.connectedToBootstrapNetwork, .sendMessage .hello] else []

def Instance.enterBootstrapActions (s : Instance) : List Action :=
  [.enterWaitForBootstrapMode,
    .connectToWifi s.bootstrapSsidString (s.options.bootstrapKey.map (·.bytes))]

def Instance.enterDestinationActions (s : Instance) : List Action :=
  [.enterBootstrappedMode, .connectToWifi s.ssidString s.pwdString]

/-- Attempts to reach the bootstrap network only count once an ssid is stored. -/
def Instance.bootstrapAttempts (s : Instance) : UInt8 :=
  if s.ssid.isSome then s.state.countConnectionAttempts + 1 else s.state.countConnectionAttempts

/-- How a poll supervises the connection: which link it leaves behind and what it does. -/
inductive LinkStep (now : Time) (conn : ConnectState) (s : Instance) : Link → List Action → Prop
  | off : s.state.state = .uninitialized → LinkStep now conn s s.link []
  | bootstrapWait : s.state.state = .connectingToBootstrap → conn.isConnected = false →
      now < s.state.timeoutConnecting → LinkStep now conn s s.link []
  | bootstrapRetry : s.state.state = .connectingToBootstrap → conn.isConnected = false →
      s.state.timeoutConnecting ≤ now →
      (s.ssid.isSome →
        s.state.countConnectionAttempts + 1 ≤ s.options.retryConnectingToBootstrapNetwork) →
      LinkStep now conn s ⟨.connectingToBootstrap, s.bootstrapAttempts, s.options.nextDeadline now⟩
        [.connectToWifi s.bootstrapSsidString (s.options.bootstrapKey.map (·.bytes))]
  | bootstrapQuit : s.state.state = .connectingToBootstrap → conn.isConnected = false →
      s.state.timeoutConnecting ≤ now → s.ssid.isSome →
      s.options.retryConnectingToBootstrapNetwork < s.state.countConnectionAttempts + 1 →
      LinkStep now conn s (s.options.newLink .connectingToDest now) s.enterDestinationActions
  | greetAgain : s.state.state = .connectingToBootstrap → conn = .connectedAdvanced →
      LinkStep now conn s s.link s.greeting
  | dataWait : s.state.state.isBootstrap = true → conn = .connected →
      now < s.state.timeoutConnecting →
      LinkStep now conn s { s.link with mode := .waitingForData } s.greeting
  | dataRearm : s.state.state.isBootstrap = true → conn = .connected →
      s.state.timeoutConnecting ≤ now → ¬ (s.ssid.isSome ∧ s.state.timeNonceValid < now) →
      LinkStep now conn s ⟨.waitingForData, s.state.countConnectionAttempts,
        s.options.nextDeadline now⟩ s.greeting
  | dataQuit : s.state.state.isBootstrap = true → conn = .connected →
      s.state.timeoutConnecting ≤ now → s.ssid.isSome → s.state.timeNonceValid < now →
      LinkStep now conn s (s.options.newLink .connectingToDest now)
        (s.greeting ++ s.enterDestinationActions)
  | dataLost : s.state.state = .waitingForData → conn ≠ .connected →
      LinkStep now conn s { s.link with mode := .connectingToBootstrap } []
  | destWait : s.state.state = .connectingToDest → conn.isLost = true →
      now ≤ s.state.timeoutConnecting → LinkStep now conn s s.link []
  | destRetry : s.state.state = .connectingToDest → conn.isConnected = false →
      s.state.timeoutConnecting < now →
      s.state.countConnectionAttempts + 1 < s.options.retryConnectingToDestinationNetwork →
      LinkStep now conn s ⟨.connectingToDest, s.state.countConnectionAttempts + 1,
        s.options.nextDeadline now⟩ [.connectToWifi s.ssidString s.pwdString]
  | destQuit : s.state.state = .connectingToDest → conn.isConnected = false →
      s.state.timeoutConnecting < now →
      s.options.retryConnectingToDestinationNetwork ≤ s.state.countConnectionAttempts + 1 →
      LinkStep now conn s (s.options.newLink .connectingToBootstrap now) s.enterBootstrapActions
  | destFailed : s.state.state.isDestination = true → conn.isFailure = true →
      (s.state.state = .connectingToDest → now ≤ s.state.timeoutConnecting) →
      LinkStep now conn s (s.options.newLink .connectingToBootstrap now) s.enterBootstrapActions
  | associated : s.state.state = .connectingToDest → conn.isConnected = true →
      s.options.needAdvancedConnection = false →
      LinkStep now conn s { s.link with mode := .destinationConnected } []
  | associatedAdvanced : s.state.state = .connectingToDest → conn.isConnected = true →
      s.options.needAdvancedConnection = true → (conn = .connected → now < 0) →
      LinkStep now conn s ⟨.destinationConnected, 0, 0⟩ []
  | associatedTry : s.state.state = .connectingToDest → conn = .connected →
      s.options.needAdvancedConnection = true → 0 ≤ now →
      LinkStep now conn s ⟨.destinationConnected, 1, s.options.nextDeadline now⟩
        [.connectAdvanced s.additionalString]
  | online : s.state.state = .destinationConnected → conn.isConnected = true →
      LinkStep now conn s s.link []
  | advancedTry : s.state.state = .destinationConnected → conn = .connected →
      s.options.needAdvancedConnection = true →
      s.state.countConnectionAttempts ≤ s.options.retryConnectingToDestinationNetwork →
      s.state.timeoutConnecting ≤ now →
      LinkStep now conn s ⟨.destinationConnected, s.state.countConnectionAttempts + 1,
        s.options.nextDeadline now⟩ [.connectAdvanced s.additionalString]
  | advancedQuit : s.state.state = .destinationConnected → conn = .connected →
      s.options.needAdvancedConnection = true →
      s.options.retryConnectingToDestinationNetwork < s.state.countConnectionAttempts →
      LinkStep now conn s (s.options.newLink .connectingToBootstrap now) s.enterBootstrapActions
  | destLost : s.state.state = .destinationConnected → conn.isLost = true →
      LinkStep now conn s { s.link with mode := .connectingToDest } []

/-- The part that both bootstrap modes have in common. -/
theorem pollWaitingForData_link (hb : s.state.state.isBootstrap = true) :
    LinkStep now .connected s
      (pollWaitingForData now .connected { s with state.state := .waitingForData }).1.link
      (s.greeting ++
        (pollWaitingForData now .connected { s with state.state := .waitingForData }).2) := by
  rw [pollWaitingForData_connected]
  by_cases ht : now < s.state.timeoutConnecting
  · rw [if_pos ht, List.append_nil]
    exact .dataWait hb rfl ht
  rw [if_neg ht]
  by_cases hq : s.ssid.isSome ∧ s.state.timeNonceValid < now
  · rw [if_pos hq]
    exact .dataQuit hb rfl (not_lt.mp ht) hq.1 hq.2
  · rw [if_neg hq, List.append_nil]
    exact .dataRearm hb rfl (not_lt.mp ht) hq

theorem pollConnectingToBootstrap_link (hm : s.state.state = .connectingToBootstrap) :
    LinkStep now conn s (pollConnectingToBootstrap now conn s).1.link
      (pollConnectingToBootstrap now conn s).2 := by
  have hb : s.state.state.isBootstrap = true := by rw [hm]; rfl
  have hg : s.greeting = [.connectedToBootstrapNetwork, .sendMessage .hello] := if_pos hm
  unfold pollConnectingToBootstrap
  by_cases hc : conn.isConnected = true
  · rw [if_pos hc]
    by_cases hconn : conn = .connected
    · have hstep : LinkStep now .connected s _ _ := pollWaitingForData_link hb
      rw [hg] at hstep
      rw [hconn]
      exact hstep
    · have hadv : conn = .connectedAdvanced := by
        cases conn <;> simp_all [ConnectState.isConnected]
      have hstep : LinkStep now conn s s.link s.greeting := .greetAgain hm hadv
      have hlink : s.link =
          { s.link with mode := .connectingToBootstrap } := by rw [← hm]; rfl
      rw [hg, hlink] at hstep
      rw [pollWaitingForData_lost hconn]
      exact hstep
  · have hlost : conn.isConnected = false := by simpa using hc
    rw [if_neg hc]
    by_cases ht : now < s.state.timeoutConnecting
    · rw [if_pos ht]
      exact .bootstrapWait hm hlost ht
    rw [if_neg ht]
    have hretry (h : s.ssid.isSome → s.state.countConnectionAttempts + 1 ≤
        s.options.retryConnectingToBootstrapNetwork) : LinkStep now conn s _ _ :=
      .bootstrapRetry hm hlost (not_lt.mp ht) h
    by_cases hssid : s.ssid.isSome = true
    · have hsome : ¬ s.ssid.isNone = true := by simpa [Option.isSome_iff_ne_none] using hssid
      have hattempts : s.bootstrapAttempts = s.state.countConnectionAttempts + 1 := if_pos hssid
      dsimp only
      rw [if_neg hsome]
      split
      next hle =>
        have hstep := hretry fun _ ↦ hle
        rw [hattempts, ← hm] at hstep
        exact hstep
      next hle => exact .bootstrapQuit hm hlost (not_lt.mp ht) hssid (UInt8.not_le.mp hle)
    · have hnone : s.ssid.isNone = true := by simpa using hssid
      have hattempts : s.bootstrapAttempts = s.state.countConnectionAttempts := if_neg hssid
      have hstep := hretry fun h ↦ absurd h hssid
      rw [hattempts, ← hm] at hstep
      dsimp only
      rw [if_pos hnone]
      exact hstep

theorem pollDestinationConnected_failed (hd : s.state.state.isDestination = true)
    (hf : conn.isFailure = true)
    (ht : s.state.state = .connectingToDest → now ≤ s.state.timeoutConnecting) :
    LinkStep now conn s (pollDestinationConnected now conn s).1.link
      (pollDestinationConnected now conn s).2 := by
  have hstep := LinkStep.destFailed hd hf ht
  cases conn with
  | failedSsidNotFound => exact hstep
  | failedCredentialsWrong => exact hstep
  | failedAdvanced => exact hstep
  | _ => cases hf

theorem pollDestinationConnected_link (hm : s.state.state = .destinationConnected) :
    LinkStep now conn s (pollDestinationConnected now conn s).1.link
      (pollDestinationConnected now conn s).2 := by
  have hd : s.state.state.isDestination = true := by rw [hm]; rfl
  have hnot : s.state.state = .connectingToDest → now ≤ s.state.timeoutConnecting := by
    intro h
    rw [hm] at h
    cases h
  cases hconn : conn with
  | failedSsidNotFound => exact pollDestinationConnected_failed hd rfl hnot
  | failedCredentialsWrong => exact pollDestinationConnected_failed hd rfl hnot
  | failedAdvanced => exact pollDestinationConnected_failed hd rfl hnot
  | connecting => exact .destLost hm rfl
  | noConnection => exact .destLost hm rfl
  | connectedAdvanced => exact .online hm rfl
  | connected =>
    simp only [pollDestinationConnected]
    split
    next hneed =>
      split
      next hcount => exact .advancedQuit hm rfl hneed hcount
      next hcount =>
        split
        next ht =>
          have hstep := LinkStep.advancedTry hm rfl hneed (UInt8.not_lt.mp hcount) ht
          rw [Options.nextDeadline, Int.add_comm, ← hm] at hstep
          exact hstep
        next ht => exact .online hm rfl
    next hneed => exact .online hm rfl

theorem pollConnectingToDest_link (hm : s.state.state = .connectingToDest) :
    LinkStep now conn s (pollConnectingToDest now conn s).1.link
      (pollConnectingToDest now conn s).2 := by
  have hd : s.state.state.isDestination = true := by rw [hm]; rfl
  unfold pollConnectingToDest
  by_cases hc : conn.isConnected = true
  · rw [if_pos hc]
    dsimp only
    split
    next hneed =>
      cases hconn : conn with
      | connected =>
        simp only [pollDestinationConnected]
        rw [if_pos hneed, if_neg (by simp)]
        split
        next ht =>
          have hstep := LinkStep.associatedTry hm rfl hneed ht
          rw [Options.nextDeadline, Int.add_comm] at hstep
          exact hstep
        next ht => exact .associatedAdvanced hm rfl hneed fun _ ↦ not_le.mp ht
      | connectedAdvanced => exact .associatedAdvanced hm rfl hneed fun h ↦ by cases h
      | _ =>
        rw [hconn] at hc
        cases hc
    next hneed =>
      have hfree : s.options.needAdvancedConnection = false := by simpa using hneed
      cases hconn : conn with
      | connected =>
        simp only [pollDestinationConnected]
        rw [if_neg hneed]
        exact .associated hm rfl hfree
      | connectedAdvanced => exact .associated hm rfl hfree
      | _ =>
        rw [hconn] at hc
        cases hc
  · have hlost : conn.isConnected = false := by simpa using hc
    rw [if_neg hc]
    by_cases ht : now > s.state.timeoutConnecting
    · rw [if_pos ht]
      dsimp only
      split
      next hcount => exact .destQuit hm hlost ht hcount
      next hcount =>
        have hstep := LinkStep.destRetry hm hlost ht (UInt8.not_le.mp hcount)
        rw [Options.nextDeadline, Int.add_comm, ← hm] at hstep
        exact hstep
    · rw [if_neg ht]
      have hin : now ≤ s.state.timeoutConnecting := not_lt.mp ht
      have hwait (hl : conn.isLost = true) :
          LinkStep now conn s { s.link with mode := .connectingToDest } [] := by
        have hlink : s.link = { s.link with mode := .connectingToDest } := by rw [← hm]; rfl
        rw [← hlink]
        exact .destWait hm hl hin
      cases conn with
      | failedSsidNotFound => exact pollDestinationConnected_failed hd rfl fun _ ↦ hin
      | failedCredentialsWrong => exact pollDestinationConnected_failed hd rfl fun _ ↦ hin
      | failedAdvanced => exact pollDestinationConnected_failed hd rfl fun _ ↦ hin
      | connected => exact absurd rfl hc
      | connectedAdvanced => exact absurd rfl hc
      | connecting => exact hwait rfl
      | noConnection => exact hwait rfl

theorem poll_link (now : Time) (conn : ConnectState) (s : Instance) :
    LinkStep now conn s (poll now conn s).1.link (poll now conn s).2 := by
  unfold poll
  split
  next hm => exact pollConnectingToBootstrap_link hm
  next hm =>
    have hs : { s with state.state := .waitingForData } = s := by rw [← hm]
    by_cases hc : conn = .connected
    · have hg : s.greeting = [] := if_neg (by rw [hm]; exact nofun)
      have hstep : LinkStep now .connected s _ _ := pollWaitingForData_link (by rw [hm]; rfl)
      rw [hg, hs] at hstep
      rw [hc]
      exact hstep
    · rw [pollWaitingForData_lost hc]
      exact .dataLost hm hc
  next hm => exact pollConnectingToDest_link hm
  next hm => exact pollDestinationConnected_link hm
  next hm => exact .off hm

end BootstrapWifi
