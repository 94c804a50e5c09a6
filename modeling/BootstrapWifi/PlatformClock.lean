import BootstrapWifi.AppRun
import BootstrapWifi.WrappingClock

namespace BootstrapWifi

open Mealy WrappingClock

variable {L : Layout} {systemGetTime : ℕ → UInt32} {T₁ T₂ d : ℕ} {now deadline : Time}
  {conn : ConnectState} {s : Instance}

/-- What the SDK says of its clock: a 32 bit counter of the microseconds of uptime. -/
def CountsMicroseconds (systemGetTime : ℕ → UInt32) : Prop :=
  ∀ T, (systemGetTime T).toNat = T % 2 ^ 32

/-- `bst_get_system_time_ms` of the ESP8266 at an uptime of `T` microseconds. -/
def bstGetSystemTimeMs (systemGetTime : ℕ → UInt32) (T : ℕ) : Time :=
  (systemGetTime T / 1000).toNat

theorem bstGetSystemTimeMs_eq (hclock : CountsMicroseconds systemGetTime) (T : ℕ) :
    bstGetSystemTimeMs systemGetTime T = read (2 ^ 32) 1000 T := by
  rw [bstGetSystemTimeMs, UInt32.toNat_div, hclock]
  exact rfl

/-- The comparisons of a deadline with the clock. -/
inductive DeadlineCheck
  | bootstrapRetry
  | waitingForData
  | destinationRetry
  | advancedRetry
  | appSession
  | newSession
deriving DecidableEq

def Action.Connects : Action → Prop
  | .connectToWifi .. | .connectAdvanced _ => True
  | _ => False

namespace DeadlineCheck

/-- The check is made, and `deadline` is what it compares with. -/
def LooksAt (deadline now : Time) (conn : ConnectState) (s : Instance) : DeadlineCheck → Prop
  | bootstrapRetry => s.Polls ∧ s.state.state = .connectingToBootstrap ∧
      s.state.timeoutConnecting = deadline ∧ conn.isConnected = false
  | waitingForData => s.Polls ∧ s.state.state = .waitingForData ∧
      s.state.timeoutConnecting = deadline ∧ conn = .connected ∧ s.ssid.isSome ∧
      s.state.timeNonceValid < now
  | destinationRetry => s.Polls ∧ s.state.state = .connectingToDest ∧
      s.state.timeoutConnecting = deadline ∧ (conn = .connecting ∨ conn = .noConnection)
  | advancedRetry => s.Polls ∧ s.state.state = .destinationConnected ∧
      s.state.timeoutConnecting = deadline ∧ conn = .connected ∧
      s.options.needAdvancedConnection = true ∧
      s.state.countConnectionAttempts ≤ s.options.retryConnectingToDestinationNetwork
  | appSession => s.state.timeNonceValid = deadline
  | newSession => s.state.timeNonceValid = deadline ∧ 0 < deadline

/-- An expired deadline lets `bst_periodic` try to connect, ends the session and admits
any new app. -/
def SeesExpired (L : Layout) (now : Time) (conn : ConnectState) (s : Instance) :
    DeadlineCheck → Prop
  | bootstrapRetry | waitingForData | destinationRetry | advancedRetry =>
    ∃ a ∈ (bstPeriodic L now conn s).2, a.Connects
  | appSession => (prvIsAppSessionValid now s).1 = false
  | newSession => ∀ random appNonce, (prvEnterAndKeepAppSession now random appNonce s).1 = true

end DeadlineCheck

theorem enterBootstrapped_connects (now : Time) (s : Instance) :
    ∃ a ∈ (prvEnterBootstrappedMode now s).2, a.Connects :=
  ⟨_, List.mem_cons_of_mem _ List.mem_cons_self, trivial⟩

theorem fallBack_connects (now : Time) (code : ErrorState) (message : CString) (s : Instance) :
    ∃ a ∈ (fallBack now code message s).2, a.Connects :=
  ⟨_, List.mem_cons_of_mem _ List.mem_cons_self, trivial⟩

theorem bootstrapRetry_connects_iff (hconn : conn.isConnected = false) :
    (∃ a ∈ (pollConnectingToBootstrap now conn s).2, a.Connects) ↔
      s.state.timeoutConnecting ≤ now := by
  unfold pollConnectingToBootstrap
  rw [hconn, if_neg Bool.false_ne_true]
  by_cases ht : s.state.timeoutConnecting > now
  · rw [if_pos ht]
    exact iff_of_false (by simp) (not_le.mpr ht)
  · rw [if_neg ht]
    refine iff_of_true ?_ (not_lt.mp ht)
    dsimp only
    split
    · exact ⟨_, List.mem_singleton_self _, trivial⟩
    · split
      · exact ⟨_, List.mem_singleton_self _, trivial⟩
      · exact enterBootstrapped_connects _ _

theorem waitingForData_connects_iff (hssid : s.ssid.isSome) (hv : s.state.timeNonceValid < now) :
    (∃ a ∈ (pollWaitingForData now .connected s).2, a.Connects) ↔
      s.state.timeoutConnecting ≤ now := by
  rw [pollWaitingForData_connected]
  by_cases ht : now < s.state.timeoutConnecting
  · rw [if_pos ht]
    exact iff_of_false (by simp) (not_le.mpr ht)
  · rw [if_neg ht, if_pos ⟨hssid, hv⟩]
    exact iff_of_true (enterBootstrapped_connects _ _) (not_lt.mp ht)

theorem destinationRetry_connects_iff (hconn : conn = .connecting ∨ conn = .noConnection) :
    (∃ a ∈ (pollConnectingToDest now conn s).2, a.Connects) ↔
      s.state.timeoutConnecting < now := by
  have hnot : conn.isConnected = false := by
    rcases hconn with rfl | rfl
    · exact rfl
    · exact rfl
  have hstay : (pollDestinationConnected now conn s).2 = [] := by
    rcases hconn with rfl | rfl
    · exact rfl
    · exact rfl
  unfold pollConnectingToDest
  rw [hnot, if_neg Bool.false_ne_true]
  by_cases ht : now > s.state.timeoutConnecting
  · rw [if_pos ht]
    refine iff_of_true ?_ ht
    dsimp only
    split
    · exact fallBack_connects _ _ _ _
    · exact ⟨_, List.mem_singleton_self _, trivial⟩
  · rw [if_neg ht, hstay]
    exact iff_of_false (by simp) ht

theorem advancedRetry_connects_iff (hneed : s.options.needAdvancedConnection = true)
    (hcount : s.state.countConnectionAttempts ≤
      s.options.retryConnectingToDestinationNetwork) :
    (∃ a ∈ (pollDestinationConnected now .connected s).2, a.Connects) ↔
      s.state.timeoutConnecting ≤ now := by
  simp only [pollDestinationConnected]
  rw [if_pos hneed, if_neg (UInt8.not_lt.mpr hcount)]
  by_cases ht : now ≥ s.state.timeoutConnecting
  · rw [if_pos ht]
    exact iff_of_true ⟨_, List.mem_singleton_self _, trivial⟩ ht
  · rw [if_neg ht]
    exact iff_of_false (by simp) ht

theorem newSession_iff (hv : s.state.timeNonceValid ≠ 0) :
    (∀ random appNonce, (prvEnterAndKeepAppSession now random appNonce s).1 = true) ↔
      s.state.timeNonceValid ≤ now := by
  unfold prvEnterAndKeepAppSession
  by_cases ht : s.state.timeNonceValid ≤ now
  · refine iff_of_true (fun random appNonce ↦ ?_) ht
    rw [if_pos (.inr ht)]
  · refine iff_of_false (fun h ↦ ?_) ht
    -- an app nonce of another length is never the one of the session
    have hother : s.state.prvAppNonce.bytes ≠ [] := by
      intro hnil
      have hlen := s.state.prvAppNonce.length_eq
      rw [hnil] at hlen
      cases hlen
    have hfalse := h 0 []
    rw [if_neg (not_or.mpr ⟨hv, ht⟩), if_neg hother] at hfalse
    cases hfalse

namespace DeadlineCheck

variable {k : DeadlineCheck}

/-- The checks differ only in what they make of a reading that equals the deadline. -/
theorem LooksAt.compare (h : k.LooksAt deadline now conn s) :
    (deadline < now → k.SeesExpired L now conn s) ∧
      (now < deadline → ¬ k.SeesExpired L now conn s) := by
  have of_le {P : Prop} (hiff : P ↔ deadline ≤ now) :
      (deadline < now → P) ∧ (now < deadline → ¬ P) :=
    ⟨fun hlt ↦ hiff.mpr hlt.le, fun hlt hp ↦ absurd (hiff.mp hp) (not_le.mpr hlt)⟩
  have of_lt {P : Prop} (hiff : P ↔ deadline < now) :
      (deadline < now → P) ∧ (now < deadline → ¬ P) :=
    ⟨hiff.mpr, fun hlt hp ↦ absurd (hiff.mp hp) hlt.not_gt⟩
  cases k with
  | bootstrapRetry =>
    obtain ⟨hpolls, hmode, rfl, hconn⟩ := h
    refine of_le ?_
    rw [SeesExpired, hpolls.periodic L, poll, hmode]
    exact bootstrapRetry_connects_iff hconn
  | waitingForData =>
    obtain ⟨hpolls, hmode, rfl, rfl, hssid, hv⟩ := h
    refine of_le ?_
    rw [SeesExpired, hpolls.periodic L, poll, hmode]
    exact waitingForData_connects_iff hssid hv
  | destinationRetry =>
    obtain ⟨hpolls, hmode, rfl, hconn⟩ := h
    refine of_lt ?_
    rw [SeesExpired, hpolls.periodic L, poll, hmode]
    exact destinationRetry_connects_iff hconn
  | advancedRetry =>
    obtain ⟨hpolls, hmode, rfl, rfl, hneed, hcount⟩ := h
    refine of_le ?_
    rw [SeesExpired, hpolls.periodic L, poll, hmode]
    exact advancedRetry_connects_iff hneed hcount
  | appSession =>
    obtain rfl := h
    refine of_lt ?_
    rw [SeesExpired, Bool.eq_false_iff, ne_eq, prvIsAppSessionValid_eq_true]
    exact not_le
  | newSession =>
    obtain ⟨rfl, hpos⟩ := h
    exact of_le (newSession_iff hpos.ne')

end DeadlineCheck

/-- A deadline of `d` milliseconds is seen as expired in time if the counter does not wrap
before it is looked at, and never if it does. -/
theorem deadline_seen_iff (hclock : CountsMicroseconds systemGetTime) (hd : 2 < d)
    (hfit : 2 * d * 1000 < 2 ^ 32) (hlow : T₁ + (d + 2) * 1000 ≤ T₂)
    (hhigh : T₂ ≤ T₁ + 2 * d * 1000) {k : DeadlineCheck}
    (hk : k.LooksAt (bstGetSystemTimeMs systemGetTime T₁ + d)
      (bstGetSystemTimeMs systemGetTime T₂) conn s) :
    k.SeesExpired L (bstGetSystemTimeMs systemGetTime T₂) conn s ↔
      T₁ / 2 ^ 32 = T₂ / 2 ^ 32 := by
  have hpassed : T₁ + (d + 1) * 1000 ≤ T₂ :=
    (Nat.add_le_add_left (Nat.mul_le_mul_right 1000 (Nat.le_succ (d + 1))) T₁).trans hlow
  have hwithin : T₂ ≤ T₁ + 2 ^ 32 := by omega
  obtain ⟨hexpired, hwaiting⟩ := hk.compare (L := L)
  constructor
  · intro hsees
    by_contra hturn
    have hle := read_le_of_wrapped 1000 hturn (Nat.le_of_add_right_le hpassed) hwithin
    have hlt := hle.trans_lt (Nat.lt_add_of_pos_right (Nat.zero_lt_of_lt hd))
    refine hwaiting ?_ hsees
    rw [bstGetSystemTimeMs_eq hclock, bstGetSystemTimeMs_eq hclock]
    exact mod_cast hlt
  · intro hturn
    have hlt := (add_lt_read_iff (Nat.succ_pos 999) hpassed hwithin).mpr hturn
    apply hexpired
    rw [bstGetSystemTimeMs_eq hclock, bstGetSystemTimeMs_eq hclock]
    exact mod_cast hlt

/-- The SDK's counter as it is described. -/
def sampleCounter (T : ℕ) : UInt32 := UInt32.ofNat T

theorem sampleCounter_counts : CountsMicroseconds sampleCounter :=
  fun _ ↦ UInt32.toNat_ofNat'

/-- The device is switched on at an uptime of `T` microseconds. -/
def startedAt (T : ℕ) : LibraryMove :=
  (library lp64).move .off ⟨bstGetSystemTimeMs sampleCounter T, .setup stationOptions [] []⟩

theorem startedAt_looksAt (T : ℕ) (now : Time) :
    DeadlineCheck.bootstrapRetry.LooksAt (bstGetSystemTimeMs sampleCounter T + (1000 : ℕ)) now
      .noConnection (startedAt T).post.inst :=
  ⟨⟨sampleOptions_ready, rfl, rfl, rfl, rfl⟩, rfl, rfl, rfl⟩

theorem sample_deadline_seen : DeadlineCheck.bootstrapRetry.SeesExpired lp64
    (bstGetSystemTimeMs sampleCounter 1500000) .noConnection (startedAt 0).post.inst := by
  have hturn : 0 / 2 ^ 32 = 1500000 / 2 ^ 32 := by omega
  exact (deadline_seen_iff sampleCounter_counts (by omega) (by omega) (by omega) (by omega)
    (startedAt_looksAt 0 _)).mpr hturn

/-- A device that is switched on one second before the counter wraps does not look for the
bootstrap network again in time. -/
theorem deadline_missed_after_wrap :
    CountsMicroseconds sampleCounter ∧ 2 < 1000 ∧ 2 * 1000 * 1000 < 2 ^ 32 ∧
      4294000000 + (1000 + 2) * 1000 ≤ 4295500000 ∧ 4295500000 ≤ 4294000000 + 2 * 1000 * 1000 ∧
      (library lp64).Run .off [startedAt 4294000000] (startedAt 4294000000).post ∧
      DeadlineCheck.bootstrapRetry.LooksAt
        (bstGetSystemTimeMs sampleCounter 4294000000 + (1000 : ℕ))
        (bstGetSystemTimeMs sampleCounter 4295500000) .noConnection
        (startedAt 4294000000).post.inst ∧
      ¬ DeadlineCheck.bootstrapRetry.SeesExpired lp64
        (bstGetSystemTimeMs sampleCounter 4295500000) .noConnection
        (startedAt 4294000000).post.inst := by
  have hlooks := startedAt_looksAt 4294000000 (bstGetSystemTimeMs sampleCounter 4295500000)
  refine ⟨sampleCounter_counts, by omega, by omega, by omega, by omega,
    Machine.Run.nil.snoc _, hlooks, ?_⟩
  apply (hlooks.compare (L := lp64)).2
  rw [bstGetSystemTimeMs_eq sampleCounter_counts, bstGetSystemTimeMs_eq sampleCounter_counts]
  norm_num [WrappingClock.read]

end BootstrapWifi
