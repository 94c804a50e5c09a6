import BootstrapWifi.Instance

namespace BootstrapWifi

open ByteBuffer

def Instance.wipeSession (s : Instance) : Instance :=
  { s with
    state.timeNonceValid := 0
    state.prvAppNonce := .zero _
    state.prvDeviceNonce := .zero _ }

/-- The verdict, and the instance whose session is wiped when it has run out. -/
def prvIsAppSessionValid (now : Time) (s : Instance) : Bool × Instance :=
  if s.state.timeNonceValid ≥ now then (true, s) else (false, s.wipeSession)

theorem prvIsAppSessionValid_of_ge {now : Time} {s : Instance} (h : now ≤ s.state.timeNonceValid) :
    prvIsAppSessionValid now s = (true, s) := if_pos h

theorem prvIsAppSessionValid_of_lt {now : Time} {s : Instance} (h : s.state.timeNonceValid < now) :
    prvIsAppSessionValid now s = (false, s.wipeSession) := if_neg (not_le.mpr h)

theorem prvIsAppSessionValid_eq_true {now : Time} {s : Instance} :
    (prvIsAppSessionValid now s).1 = true ↔ now ≤ s.state.timeNonceValid := by
  by_cases h : now ≤ s.state.timeNonceValid
  · simp [prvIsAppSessionValid_of_ge h, h]
  · simp [prvIsAppSessionValid_of_lt (not_le.mp h), h]

/-- The bytes of a random number as a little-endian `uint64_t` in memory. -/
def randomBytes (r : UInt64) : List UInt8 :=
  (List.range nonceSize).map fun i ↦ (r >>> (8 * i).toUInt64).toUInt8

@[simp] theorem length_randomBytes (r : UInt64) : (randomBytes r).length = nonceSize := by
  simp [randomBytes]

def Instance.renewSession (now : Time) (random : UInt64) (s : Instance) : Instance :=
  { s with
    state.timeNonceValid := s.options.timeoutNonceMs + now
    state.prvDeviceNonce := s.state.prvDeviceNonce.write (randomBytes random) }

def prvEnterAndKeepAppSession (now : Time) (random : UInt64) (appNonce : List UInt8)
    (s : Instance) : Bool × Instance :=
  if s.state.timeNonceValid = 0 ∨ s.state.timeNonceValid ≤ now then
    (true, { s with state.prvAppNonce := s.state.prvAppNonce.write appNonce }.renewSession now random)
  else if s.state.prvAppNonce.bytes = appNonce then (true, s.renewSession now random)
  else (false, s)

end BootstrapWifi
