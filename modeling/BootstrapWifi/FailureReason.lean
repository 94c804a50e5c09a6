import BootstrapWifi.RestartRun

namespace BootstrapWifi

open Mealy

variable {L : Layout} {now : Time} {conn : ConnectState} {code : ErrorState} {s : Instance}

/-- The error that a failed connection stands for. -/
def ConnectState.reason : ConnectState → Option ErrorState
  | .failedSsidNotFound => some .errorWifiNotFound
  | .failedCredentialsWrong => some .errorWifiCredentialsWrong
  | .failedAdvanced => some .errorAdvanced
  | _ => none

/-- The deadline has passed, and this attempt was the last one. -/
def RunsOut (now : Time) (s : Instance) : Prop :=
  s.state.state = .connectingToDest ∧ s.state.timeoutConnecting < now ∧
    s.options.retryConnectingToDestinationNetwork ≤ s.state.countConnectionAttempts + 1

theorem pollDestinationConnected_reason (hr : conn.reason = some code) :
    (pollDestinationConnected now conn s).1.state.state = .connectingToBootstrap ∧
      (pollDestinationConnected now conn s).1.state.lastError = code := by
  cases conn with
  | failedSsidNotFound => exact ⟨rfl, Option.some.inj hr⟩
  | failedCredentialsWrong => exact ⟨rfl, Option.some.inj hr⟩
  | failedAdvanced => exact ⟨rfl, Option.some.inj hr⟩
  | _ => cases hr

theorem ConnectState.isConnected_of_reason (hr : conn.reason = some code) :
    conn.isConnected = false := by
  cases conn with
  | connected => cases hr
  | connectedAdvanced => cases hr
  | _ => exact rfl

/-- After the deadline the connection state is not looked at any more. -/
theorem pollConnectingToDest_late (hc : conn.isConnected = false)
    (ht : s.state.timeoutConnecting < now) :
    (s.options.retryConnectingToDestinationNetwork ≤ s.state.countConnectionAttempts + 1 →
      (pollConnectingToDest now conn s).1.state.state = .connectingToBootstrap ∧
        (pollConnectingToDest now conn s).1.state.lastError = .errorWifiNotFound) ∧
    (¬ s.options.retryConnectingToDestinationNetwork ≤ s.state.countConnectionAttempts + 1 →
      (pollConnectingToDest now conn s).1.state.state = s.state.state) := by
  unfold pollConnectingToDest
  rw [hc, if_neg Bool.false_ne_true, if_pos ht]
  constructor
  · intro hcount
    dsimp only
    rw [if_pos hcount]
    exact ⟨rfl, rfl⟩
  · intro hcount
    dsimp only
    rw [if_neg hcount]

theorem pollConnectingToDest_early (hc : conn.isConnected = false)
    (ht : now ≤ s.state.timeoutConnecting) :
    pollConnectingToDest now conn s = pollDestinationConnected now conn s := by
  unfold pollConnectingToDest
  rw [hc, if_neg Bool.false_ne_true, if_neg (not_lt.mpr ht)]

/-- The reason of a failure gets through to the app unless the retries run out in the same
call; a missing network is reported either way. -/
theorem failure_reason_iff (hd : s.state.state.isDestination = true) (hp : s.Polls)
    (hr : conn.reason = some code) :
    ((bstPeriodic L now conn s).1.state.state = .connectingToBootstrap →
      (bstPeriodic L now conn s).1.state.lastError = code) ↔
      code = .errorWifiNotFound ∨ ¬ RunsOut now s := by
  have hc := ConnectState.isConnected_of_reason hr
  have hreason : (pollDestinationConnected now conn s).1.state.lastError = code :=
    (pollDestinationConnected_reason hr).2
  rw [hp.periodic L]
  rcases BstState.isDestination_iff.mp hd with hm | hm
  · have hpoll : poll now conn s = pollConnectingToDest now conn s := by
      unfold poll
      rw [hm]
    rw [hpoll]
    by_cases ht : s.state.timeoutConnecting < now
    · obtain ⟨hquit, hstay⟩ := pollConnectingToDest_late hc ht
      by_cases hcount :
          s.options.retryConnectingToDestinationNetwork ≤ s.state.countConnectionAttempts + 1
      · obtain ⟨hmode, herror⟩ := hquit hcount
        rw [hmode, herror]
        constructor
        · intro h
          exact .inl (h rfl).symm
        · intro h _
          exact (h.resolve_right (not_not.mpr ⟨hm, ht, hcount⟩)).symm
      · refine iff_of_true (fun h ↦ ?_) (.inr fun h ↦ hcount h.2.2)
        rw [hstay hcount, hm] at h
        cases h
    · rw [pollConnectingToDest_early hc (not_lt.mp ht)]
      exact iff_of_true (fun _ ↦ hreason) (.inr fun h ↦ ht h.2.1)
  · have hpoll : poll now conn s = pollDestinationConnected now conn s := by
      unfold poll
      rw [hm]
    rw [hpoll]
    exact iff_of_true (fun _ ↦ hreason) (.inr fun h ↦ by cases hm.symm.trans h.1)

def onceOptions : Options := { sampleOptions with retryConnectingToDestinationNetwork := 1 }

/-- With a single attempt, wrong credentials are reported as long as the deadline of 1001 has
not passed. -/
theorem sample_failure_reason :
    (bstPeriodic lp64 1001 .failedCredentialsWrong
        (restarted onceOptions []).inst).1.state.state = .connectingToBootstrap ∧
      (bstPeriodic lp64 1001 .failedCredentialsWrong
        (restarted onceOptions []).inst).1.state.lastError = .errorWifiCredentialsWrong := by
  refine ⟨rfl, ?_⟩
  refine (failure_reason_iff rfl ⟨⟨rfl, rfl⟩, rfl, rfl, rfl, rfl⟩ rfl).mpr ?_ rfl
  exact .inr fun h ↦ absurd h.2.1 (by decide)

theorem wrong_credentials_not_reported :
    (library lp64).Run .off (restartHistory onceOptions []) (restarted onceOptions []) ∧
      (restarted onceOptions []).inst.state.state.isDestination = true ∧
      (restarted onceOptions []).inst.Polls ∧
      ConnectState.reason .failedCredentialsWrong = some .errorWifiCredentialsWrong ∧
      (bstPeriodic lp64 1002 .failedCredentialsWrong
        (restarted onceOptions []).inst).1.state.state = .connectingToBootstrap ∧
      (bstPeriodic lp64 1002 .failedCredentialsWrong
        (restarted onceOptions []).inst).1.state.lastError ≠ .errorWifiCredentialsWrong := by
  refine ⟨run_restart _ _, rfl, ⟨⟨rfl, rfl⟩, rfl, rfl, rfl, rfl⟩, rfl, rfl, ?_⟩
  decide

end BootstrapWifi
