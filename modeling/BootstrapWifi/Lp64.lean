import BootstrapWifi.Instance
import Mathlib.Algebra.Order.Group.Int
import Mathlib.Tactic.NormNum
import Mathlib.Tactic.Ring

namespace BootstrapWifi

open ByteBuffer

/-- The `n` low bytes of a number, least significant first. -/
def littleEndian : ℕ → ℤ → List UInt8
  | 0, _ => []
  | n + 1, z => (z % 256).toNat.toUInt8 :: littleEndian n (z / 256)

def fromLittleEndian : List UInt8 → ℕ
  | [] => 0
  | b :: bs => b.toNat + 256 * fromLittleEndian bs

def fromSigned64 (bs : List UInt8) : ℤ :=
  let n := fromLittleEndian bs
  if n < 2 ^ 63 then n else n - 2 ^ 64

@[simp] theorem length_littleEndian (n : ℕ) (z : ℤ) : (littleEndian n z).length = n := by
  induction n generalizing z with
  | zero => rfl
  | succ n ih => rw [littleEndian, List.length_cons, ih]

theorem fromLittleEndian_littleEndian (n : ℕ) (z : ℤ) :
    (fromLittleEndian (littleEndian n z) : ℤ) = z % 256 ^ n := by
  induction n generalizing z with
  | zero =>
    rw [pow_zero, Int.emod_one]
    rfl
  | succ n ih =>
    have hb : ((z % 256).toNat.toUInt8.toNat : ℤ) = z % 256 := by
      have h₀ : 0 ≤ z % 256 := Int.emod_nonneg z (by decide)
      have h₁ : z % 256 < 256 := Int.emod_lt_of_pos z (by decide)
      have hn : (z % 256).toNat.toUInt8.toNat = (z % 256).toNat :=
        UInt8.toNat_ofNat_of_lt' (show (z % 256).toNat < 256 by omega)
      rw [hn, Int.toNat_of_nonneg h₀]
    simp only [littleEndian, fromLittleEndian, Nat.cast_add, Nat.cast_mul, ih, hb]
    have hpos : (0 : ℤ) < 256 ^ n := Int.pow_pos (by decide)
    have hz : z = z % 256 + 256 * (z / 256) := (Int.emod_add_mul_ediv z 256).symm
    have hq : z / 256 = z / 256 % 256 ^ n + 256 ^ n * (z / 256 / 256 ^ n) :=
      (Int.emod_add_mul_ediv _ _).symm
    have hr : z % 256 + 256 * (z / 256 % 256 ^ n) < 256 ^ (n + 1) := by
      have h₁ := Int.emod_lt_of_pos (z / 256) hpos
      have h₂ := Int.emod_lt_of_pos z (show (0 : ℤ) < 256 by decide)
      rw [pow_succ]
      omega
    have h₀ : 0 ≤ z % 256 + 256 * (z / 256 % 256 ^ n) := by
      have h₁ := Int.emod_nonneg (z / 256) hpos.ne'
      have h₂ := Int.emod_nonneg z (show (256 : ℤ) ≠ 0 by decide)
      omega
    have hsum : z = z % 256 + 256 * (z / 256 % 256 ^ n) +
        256 ^ (n + 1) * (z / 256 / 256 ^ n) := by
      conv_lhs => rw [hz, hq]
      ring
    conv_rhs => rw [hsum, Int.add_mul_emod_self_left, Int.emod_eq_of_lt h₀ hr]
    rfl

theorem fromSigned64_littleEndian {z : ℤ} (h : -2 ^ 63 ≤ z) (h' : z < 2 ^ 63) :
    fromSigned64 (littleEndian 8 z) = z := by
  have hl := fromLittleEndian_littleEndian 8 z
  have hp : (256 : ℤ) ^ 8 = 2 ^ 64 := by norm_num
  rw [hp] at hl
  unfold fromSigned64
  dsimp only
  split <;> omega

def bstStates : List BstState :=
  [.uninitialized, .connectingToBootstrap, .waitingForData, .connectingToDest,
    .destinationConnected]

def errorStates : List ErrorState :=
  [.ok, .hello, .bootstrapOk, .errorUnspecified, .errorBinding, .errorBootstrapData,
    .errorWifiList, .errorWifiNotFound, .errorWifiCredentialsWrong, .errorAdvanced]

def Flags.byte (f : Flags) : UInt8 :=
  f.requestWifiList.toUInt8 + 2 * f.requestSetWifi.toUInt8 + 4 * f.requestBind.toUInt8 +
    8 * f.requestFactoryReset.toUInt8 + 16 * f.externalConfirmation.toUInt8

def Flags.ofByte (b : UInt8) : Flags :=
  ⟨b &&& 1 ≠ 0, b &&& 2 ≠ 0, b &&& 4 ≠ 0, b &&& 8 ≠ 0, b &&& 16 ≠ 0⟩

theorem Flags.ofByte_byte (f : Flags) : ofByte f.byte = f := by
  obtain ⟨a, b, c, d, e⟩ := f
  revert a b c d e
  decide

/-- A pointer other than NULL; its target is not part of the instance. -/
def pointerBytes (p : Option CString) : List UInt8 :=
  if p.isSome then [0, 16, 0, 0, 0, 0, 0, 0] else List.replicate 8 0

/-- What lies behind `crypto_secret` as a 64 bit compiler with 4 byte enumerations places it:
the length, `state` and `flags`, each with its padding. -/
def behindFields (cryptoSecretLen : UInt8) (x : Behind) : List (List UInt8) :=
  [cryptoSecretLen :: x.padding.bytes.take 7,
    pointerBytes x.state.errorLogMsg,
    x.state.prvAppNonce.bytes,
    x.state.prvDeviceNonce.bytes,
    x.state.countConnectionAttempts :: x.state.padding.bytes.take 3,
    littleEndian 4 (bstStates.idxOf x.state.state),
    littleEndian 4 (errorStates.idxOf x.state.lastError) ++ x.state.padding.bytes.drop 3,
    littleEndian 8 x.state.timeoutConnecting,
    littleEndian 8 x.state.timeNonceValid,
    x.flags.byte :: x.padding.bytes.drop 7]

def behindSizes : List ℕ := [8, 8, 8, 8, 4, 4, 8, 8, 8, 8]

def behindBytes (cryptoSecretLen : UInt8) (x : Behind) : List UInt8 :=
  (behindFields cryptoSecretLen x).flatten

def cut : List ℕ → List UInt8 → List (List UInt8)
  | [], _ => []
  | n :: ns, bs => bs.take n :: cut ns (bs.drop n)

/-- Read the fields back from overwritten bytes. A pointer that is neither NULL nor the
old one reads as the empty string. -/
def fromBehindBytes (bs : List UInt8) (old : Behind) : Behind :=
  let field (i : ℕ) := (cut behindSizes bs).getD i []
  { state :=
      { errorLogMsg :=
          if field 1 = pointerBytes none then none
          else if field 1 = pointerBytes old.state.errorLogMsg then old.state.errorLogMsg
          else some .empty
        prvAppNonce := old.state.prvAppNonce.write (field 2)
        prvDeviceNonce := old.state.prvDeviceNonce.write (field 3)
        countConnectionAttempts := (field 4).getD 0 0
        state := bstStates.getD (fromLittleEndian (field 5)) .uninitialized
        lastError := errorStates.getD (fromLittleEndian ((field 6).take 4)) .errorUnspecified
        timeoutConnecting := fromSigned64 (field 7)
        timeNonceValid := fromSigned64 (field 8)
        padding := old.state.padding.write ((field 4).drop 1 ++ (field 6).drop 4) }
    flags := .ofByte ((field 9).getD 0 0)
    padding := old.padding.write ((field 0).drop 1 ++ (field 9).drop 1) }

def lp64 : Layout where
  behindSecret s := (Buffer.zero _).write (behindBytes s.cryptoSecretLen s.behind)
  behindPacket _ := .zero _
  spill bs x :=
    if bs = [] then x
    else fromBehindBytes (bs ++ (behindBytes 0 x).drop bs.length) x
  spill_nil _ := rfl

theorem cut_flatten (fs : List (List UInt8)) : cut (fs.map List.length) fs.flatten = fs := by
  induction fs with
  | nil => rfl
  | cons f fs ih =>
    rw [List.map_cons, List.flatten_cons, cut, List.take_left' rfl, List.drop_left' rfl, ih]

theorem length_behindFields (len : UInt8) (x : Behind) :
    (behindFields len x).map List.length = behindSizes := by
  have hp : (pointerBytes x.state.errorLogMsg).length = 8 := by
    unfold pointerBytes
    split <;> rfl
  simp [behindFields, behindSizes, hp, nonceSize, statePaddingSize, instancePaddingSize]

theorem length_behindBytes (len : UInt8) (x : Behind) : (behindBytes len x).length = 72 := by
  rw [behindBytes, List.length_flatten, length_behindFields]
  rfl

theorem cut_behindBytes (len : UInt8) (x : Behind) :
    cut behindSizes (behindBytes len x) = behindFields len x := by
  rw [← length_behindFields len x]
  exact cut_flatten _

/-- What a write that ends with `flags` puts behind `crypto_secret`. -/
def frontBytes (cryptoSecretLen : UInt8) (x : Behind) : List UInt8 :=
  ((behindFields cryptoSecretLen x).take 9).flatten ++ [x.flags.byte]

theorem behindBytes_eq (len : UInt8) (x : Behind) :
    behindBytes len x = frontBytes len x ++ x.padding.bytes.drop 7 := by
  simp [behindBytes, frontBytes, behindFields]

theorem length_frontBytes (len : UInt8) (x : Behind) : (frontBytes len x).length = 65 := by
  have hlen := length_behindBytes len x
  rw [behindBytes_eq, List.length_append, List.length_drop, Buffer.length_bytes,
    instancePaddingSize] at hlen
  omega

def FitsTime (t : Time) : Prop := -2 ^ 63 ≤ t ∧ t < 2 ^ 63

instance (t : Time) : Decidable (FitsTime t) := inferInstanceAs (Decidable (_ ∧ _))

theorem fromBehindBytes_behindBytes (len : UInt8) {x : Behind} (old : Behind)
    (hm : x.state.errorLogMsg = none) (hc : FitsTime x.state.timeoutConnecting)
    (hv : FitsTime x.state.timeNonceValid) : fromBehindBytes (behindBytes len x) old = x := by
  have hstate : bstStates.getD (fromLittleEndian (littleEndian 4 (bstStates.idxOf x.state.state)))
      .uninitialized = x.state.state := by
    cases x.state.state <;> rfl
  have herror : errorStates.getD
      (fromLittleEndian (littleEndian 4 (errorStates.idxOf x.state.lastError)))
      .errorUnspecified = x.state.lastError := by
    cases x.state.lastError <;> rfl
  have hwrite {n : ℕ} (b b' : Buffer n) : b.write b'.bytes = b' :=
    Buffer.ext (Buffer.write_full _ b'.length_eq)
  have herr : (littleEndian 4 (errorStates.idxOf x.state.lastError)).length = 4 :=
    length_littleEndian 4 _
  unfold fromBehindBytes
  simp only [cut_behindBytes, behindFields, List.getD_cons_zero, List.getD_cons_succ, hm, if_true,
    List.drop_succ_cons, List.drop_zero, List.take_left' herr, List.drop_left' herr,
    List.take_append_drop, hwrite, hstate, herror, fromSigned64_littleEndian hc.1 hc.2,
    fromSigned64_littleEndian hv.1 hv.2, Flags.ofByte_byte]
  rw [← hm]

theorem spill_frontBytes (len : UInt8) {x : Behind} (old : Behind)
    (hm : x.state.errorLogMsg = none) (hc : FitsTime x.state.timeoutConnecting)
    (hv : FitsTime x.state.timeNonceValid) : lp64.spill (frontBytes len x) old =
      { x with padding := old.padding.write (x.padding.bytes.take 7) } := by
  have hpad : (x.padding.bytes.take 7).length = 7 := by simp [instancePaddingSize]
  have hbytes : (old.padding.write (x.padding.bytes.take 7)).bytes =
      x.padding.bytes.take 7 ++ old.padding.bytes.drop 7 := by
    rw [Buffer.write_bytes _ (hpad.trans_le (by decide)), hpad]
  generalize hnew : old.padding.write (x.padding.bytes.take 7) = padding at hbytes ⊢
  have hne : frontBytes len x ≠ [] := by simp [frontBytes]
  have hold : (behindBytes 0 old).drop 65 = old.padding.bytes.drop 7 := by
    rw [behindBytes_eq, List.drop_left' (length_frontBytes 0 old)]
  have hfront : frontBytes len { x with padding } = frontBytes len x := by
    simp only [frontBytes, behindFields, hbytes, List.take_left' hpad, List.take_succ_cons,
      List.take_zero]
  change (if frontBytes len x = [] then old
    else fromBehindBytes (frontBytes len x ++ (behindBytes 0 old).drop (frontBytes len x).length)
      old) = _
  have hall : frontBytes len x ++ old.padding.bytes.drop 7 =
      behindBytes len { x with padding } := by
    rw [behindBytes_eq, hfront, hbytes, List.drop_left' hpad]
  rw [if_neg hne, length_frontBytes, hold, hall]
  exact fromBehindBytes_behindBytes len old hm hc hv

end BootstrapWifi
