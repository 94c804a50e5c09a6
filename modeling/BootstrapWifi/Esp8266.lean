import BootstrapWifi.PlatformClock

namespace BootstrapWifi

open Mealy

/-- The answers of `wifi_station_get_connect_status`. -/
inductive StationStatus
  | idle
  | connecting
  | wrongPassword
  | noApFound
  | connectFail
  | gotIp
deriving DecidableEq

/-- What `bst_get_connection_state` reads; `micros` are the two readings of
`system_get_time`. -/
structure Reception where
  status : StationStatus
  rssi : ℤ
  micros : UInt32
  microsAgain : UInt32

inductive SdkCall
  | getRssi
  | disconnect
deriving DecidableEq

/-- `bst_get_system_time_ms` at a reading of `system_get_time`. -/
def systemTimeMs (micros : UInt32) : ℤ := (micros / 1000).toNat

def bstGetConnectionState (x : Reception) (lastRssiTime : ℤ) :
    ℤ × (ConnectState × List SdkCall) :=
  match x.status with
  | .gotIp =>
    if lastRssiTime + 5000 < systemTimeMs x.micros then
      (systemTimeMs x.microsAgain, .connected, .getRssi :: if x.rssi > 10 then [.disconnect] else [])
    else (lastRssiTime, .connected, [])
  | .connectFail | .noApFound => (lastRssiTime, .failedSsidNotFound, [])
  | .wrongPassword => (lastRssiTime, .failedCredentialsWrong, [.disconnect])
  | .idle | .connecting => (lastRssiTime, .noConnection, [])

/-- The calls of `bst_get_connection_state` from one start of the board to the next. -/
def radio : Machine ℤ Reception (ConnectState × List SdkCall) := ⟨0, bstGetConnectionState⟩

abbrev RadioMove := Move ℤ Reception (ConnectState × List SdkCall)

def measures (m : RadioMove) : Bool := m.output.2.contains .getRssi

variable {x : Reception} {last : ℤ} {h : List RadioMove}

theorem systemTimeMs_le (micros : UInt32) : systemTimeMs micros ≤ 4294967 := by
  have hlt := micros.toNat_lt
  rw [systemTimeMs, UInt32.toNat_div, show (1000 : UInt32).toNat = 1000 from rfl]
  omega

theorem systemTimeMs_mono {micros micros' : UInt32} (h : micros ≤ micros') :
    systemTimeMs micros ≤ systemTimeMs micros' := by
  have hle := UInt32.le_iff_toNat_le.mp h
  rw [systemTimeMs, systemTimeMs, UInt32.toNat_div, UInt32.toNat_div]
  exact Int.ofNat_le.mpr (Nat.div_le_div_right hle)

/-- The signal is measured when the station is connected and the last time is more than 5 s
ago. -/
theorem measures_iff : measures (radio.move last x) = true ↔
    x.status = .gotIp ∧ last + 5000 < systemTimeMs x.micros := by
  unfold measures
  simp only [radio, Machine.move, bstGetConnectionState]
  cases x.status with
  | gotIp =>
    dsimp only
    split
    next hlate => exact ⟨fun _ ↦ ⟨rfl, hlate⟩, fun _ ↦ rfl⟩
    next hlate => exact iff_of_false Bool.false_ne_true fun h ↦ absurd h.2 hlate
  | _ => exact iff_of_false Bool.false_ne_true fun h ↦ by cases h.1

theorem radio_step (x : Reception) (last : ℤ) : (radio.step x last).1 =
    if measures (radio.move last x) then systemTimeMs x.microsAgain else last := by
  simp only [measures_iff]
  simp only [radio, bstGetConnectionState]
  cases x.status with
  | gotIp =>
    dsimp only
    split <;> simp_all
  | _ => rfl

/-- The clock does not start again between two readings of one call. -/
def SteadyClock (h : List RadioMove) : Prop := ∀ m ∈ h, m.input.micros ≤ m.input.microsAgain

theorem measured_le (r : radio.Run radio.start h last) (hclock : SteadyClock h) :
    5001 * (h.countP measures : ℤ) ≤ last ∧ last ≤ 4294967 := by
  induction r with
  | nil => exact ⟨le_rfl, by decide⟩
  | @snoc h last r x ih =>
    obtain ⟨hcount, hlast⟩ := ih fun m hm ↦ hclock m (List.mem_cons_of_mem _ hm)
    have hx := systemTimeMs_mono (hclock _ List.mem_cons_self)
    rw [move_input] at hx
    rw [radio_step]
    by_cases hm : measures (radio.move last x) = true
    · have hlate := (measures_iff.mp hm).2
      rw [if_pos hm, List.countP_cons_of_pos hm]
      refine ⟨?_, systemTimeMs_le _⟩
      push_cast
      omega
    · rw [if_neg hm, List.countP_cons_of_neg hm]
      exact ⟨hcount, hlast⟩

/-- A connected station whose signal is measured as often as that can be. -/
theorem exists_measured (n : ℕ) (hn : n ≤ 858) : ∃ h, radio.Run radio.start h (5001 * n) ∧
    SteadyClock h ∧ h.countP measures = n := by
  induction n with
  | zero => exact ⟨[], .nil, List.forall_mem_nil _, rfl⟩
  | succ n ih =>
    obtain ⟨h, r, hclock, hcount⟩ := ih (Nat.le_of_succ_le hn)
    let micros : UInt32 := UInt32.ofNat (5001000 * (n + 1))
    have hms : systemTimeMs micros = 5001 * (n + 1) := by
      have hlt : 5001000 * (n + 1) < 2 ^ 32 := by omega
      rw [systemTimeMs, UInt32.toNat_div, UInt32.toNat_ofNat_of_lt' hlt,
        show (1000 : UInt32).toNat = 1000 from rfl]
      omega
    have hlate : 5001 * (n : ℤ) + 5000 < systemTimeMs micros := by
      rw [hms]
      omega
    have hm : measures (radio.move (5001 * n) ⟨.gotIp, 0, micros, micros⟩) = true :=
      measures_iff.mpr ⟨rfl, hlate⟩
    have r' := r.snoc ⟨.gotIp, 0, micros, micros⟩
    rw [radio_step, if_pos hm, hms] at r'
    rw [Nat.cast_succ]
    refine ⟨_, r', List.forall_mem_cons.mpr ⟨UInt32.le_refl _, hclock⟩, ?_⟩
    rw [List.countP_cons_of_pos hm, hcount]

/-- The clock of the platform starts again after 71 minutes, and the time of the last
measurement stays behind at its end: however long the board runs, the loss of a network is
looked for at most 858 times. -/
theorem rssi_measured_at_most : IsGreatest
    {n | ∃ h last, radio.Run radio.start h last ∧ SteadyClock h ∧ h.countP measures = n} 858 := by
  constructor
  · obtain ⟨h, r, hclock, hcount⟩ := exists_measured 858 le_rfl
    exact ⟨h, _, r, hclock, hcount⟩
  · intro n hn
    obtain ⟨h, last, r, hclock, rfl⟩ := hn
    obtain ⟨hcount, hlast⟩ := measured_le r hclock
    omega

/-- `bst_get_random` passes on what `rand` gives, an `int` that is not negative. -/
def bstGetRandom (rand : Fin (2 ^ 31)) : UInt64 := .ofNat rand

end BootstrapWifi
