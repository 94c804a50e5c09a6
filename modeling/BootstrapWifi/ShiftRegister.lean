import Mathlib.Data.List.Basic
import Mathlib.Logic.Function.Iterate

namespace ShiftRegister

variable {w k n : ℕ} (poly : BitVec w)

/-- One shift of a register of `w` bits that feeds its top bit back through `poly`. -/
def shift (r : BitVec w) : BitVec w := (r <<< 1) ^^^ if r.msb then poly else 0

/-- A symbol of `k` bits at the top of the register. -/
def top (b : BitVec k) : BitVec w := b.setWidth w <<< (w - k)

def absorb (r : BitVec w) (b : BitVec k) : BitVec w := (shift poly)^[k] (r ^^^ top b)

/-- Symbols side by side, the first one at the top. -/
def packed : List (BitVec k) → BitVec w
  | [] => 0
  | b :: bs => top b ^^^ (packed bs >>> k)

variable {poly}

theorem shift_xor (a b : BitVec w) : shift poly (a ^^^ b) = shift poly a ^^^ shift poly b := by
  have hx : (a ^^^ b).msb = (a.msb ^^ b.msb) := BitVec.msb_xor
  unfold shift
  rw [hx, BitVec.shiftLeft_xor_distrib]
  ext i hi
  simp only [BitVec.getElem_xor]
  cases a.msb <;> cases b.msb <;> simp [Bool.xor_comm, Bool.xor_left_comm]

theorem iterate_shift_xor (n : ℕ) (a b : BitVec w) :
    (shift poly)^[n] (a ^^^ b) = (shift poly)^[n] a ^^^ (shift poly)^[n] b := by
  induction n generalizing a b with
  | zero => rfl
  | succ n ih => rw [Function.iterate_succ_apply, shift_xor, ih]; rfl

theorem shift_injective (hp : poly.getLsbD 0 = true) : Function.Injective (shift poly) := by
  intro a b h
  have hw : 0 < w := by
    by_contra hz
    rw [BitVec.getLsbD_of_ge poly 0 (by omega)] at hp
    cases hp
  have hlow (r : BitVec w) : (shift poly r).getLsbD 0 = r.msb := by
    cases hr : r.msb <;> simp [shift, hr, hp]
  have hmsb : a.msb = b.msb := by rw [← hlow a, ← hlow b, h]
  have hshift : a <<< 1 = b <<< 1 := by
    unfold shift at h
    rw [hmsb] at h
    exact (BitVec.xor_left_inj _).mp h
  apply BitVec.eq_of_getLsbD_eq
  intro i hi
  by_cases htop : i + 1 < w
  · have hbit := congrArg (fun r : BitVec w ↦ r.getLsbD (i + 1)) hshift
    simp only [BitVec.getLsbD_shiftLeft] at hbit
    simpa [htop] using hbit
  · have hlast : i = w - 1 := by omega
    rw [hlast, ← BitVec.msb_eq_getLsbD_last, ← BitVec.msb_eq_getLsbD_last, hmsb]

/-- As long as nothing reaches the feedback, shifting is shifting. -/
theorem iterate_shift_ushiftRight {r : BitVec w} (h : ∀ i < n, r.getLsbD i = false) :
    (shift poly)^[n] (r >>> n) = r := by
  induction n with
  | zero => exact BitVec.ushiftRight_zero r
  | succ n ih =>
    have hmsb : (r >>> (n + 1)).msb = false := by simp [BitVec.msb_ushiftRight]
    have hback : r >>> (n + 1) <<< 1 = r >>> n := by
      apply BitVec.eq_of_getLsbD_eq
      intro i hi
      rw [BitVec.getLsbD_shiftLeft, BitVec.getLsbD_ushiftRight, BitVec.getLsbD_ushiftRight]
      cases i with
      | zero => simpa using (h n (Nat.lt_succ_self n)).symm
      | succ i => simp [hi, show n + 1 + i = n + (i + 1) by omega]
    have hone : shift poly (r >>> (n + 1)) = r >>> n := by simp [shift, hmsb, hback]
    rw [Function.iterate_succ_apply, hone]
    exact ih fun i hi ↦ h i (Nat.lt_succ_of_lt hi)

theorem getLsbD_top {b : BitVec k} (hk : k ≤ w) (i : ℕ) :
    (top b : BitVec w).getLsbD i = (decide (w - k ≤ i) && b.getLsbD (i - (w - k))) := by
  by_cases hi : i < w
  · by_cases hl : i < w - k
    · simp [top, hl, Nat.not_le.mpr hl]
    · simp [top, hi, hl, Nat.not_lt.mp hl]
  · rw [BitVec.getLsbD_of_ge _ _ (Nat.not_lt.mp hi), BitVec.getLsbD_of_ge b _ (by omega),
      Bool.and_false]

theorem getLsbD_packed {bs : List (BitVec k)} (hk : bs.length * k ≤ w) {i : ℕ}
    (hi : i < w - bs.length * k) : (packed bs : BitVec w).getLsbD i = false := by
  induction bs generalizing i with
  | nil => simp [packed]
  | cons b bs ih =>
    rw [List.length_cons, Nat.succ_mul] at hk hi
    have htop : ¬ w - k ≤ i := by omega
    have hrest : (packed bs : BitVec w).getLsbD (k + i) = false := ih (by omega) (by omega)
    rw [packed, BitVec.getLsbD_xor, BitVec.getLsbD_ushiftRight, hrest, getLsbD_top (by omega)]
    simp [htop]

theorem foldl_absorb (bs : List (BitVec k)) (hk : bs.length * k ≤ w) (r : BitVec w) :
    bs.foldl (absorb poly) r = (shift poly)^[bs.length * k] (r ^^^ packed bs) := by
  induction bs generalizing r with
  | nil => simp [packed]
  | cons b bs ih =>
    rw [List.length_cons, Nat.succ_mul] at hk
    have hrest : packed bs = (shift poly)^[k] ((packed bs : BitVec w) >>> k) :=
      (iterate_shift_ushiftRight fun i hi ↦ getLsbD_packed (by omega) (by omega)).symm
    rw [List.foldl_cons, ih (by omega), absorb, List.length_cons, Nat.succ_mul, packed]
    conv_lhs => rw [hrest]
    rw [← iterate_shift_xor, ← Function.iterate_add_apply, BitVec.xor_assoc]

theorem packed_injective {bs cs : List (BitVec k)} (hl : bs.length = cs.length)
    (hk : bs.length * k ≤ w) (h : (packed bs : BitVec w) = packed cs) : bs = cs := by
  induction bs generalizing cs with
  | nil => exact (List.length_eq_zero_iff.mp hl.symm).symm
  | cons b bs ih =>
    cases cs with
    | nil => cases hl
    | cons c cs =>
      have hl' : bs.length = cs.length := Nat.succ.inj hl
      rw [List.length_cons, Nat.succ_mul] at hk
      have hkc : cs.length * k + k ≤ w := hl' ▸ hk
      have hbit (i : ℕ) := congrArg (fun r : BitVec w ↦ r.getLsbD i) h
      simp only [packed, BitVec.getLsbD_xor, BitVec.getLsbD_ushiftRight,
        getLsbD_top (show k ≤ w by omega)] at hbit
      have hhead : b = c := by
        apply BitVec.eq_of_getLsbD_eq
        intro i hi
        have hb := hbit (w - k + i)
        rw [BitVec.getLsbD_of_ge _ _ (show w ≤ k + (w - k + i) by omega),
          BitVec.getLsbD_of_ge _ _ (show w ≤ k + (w - k + i) by omega)] at hb
        simpa using hb
      have htail : (packed bs : BitVec w) = packed cs := by
        apply BitVec.eq_of_getLsbD_eq
        intro i hi
        by_cases hik : i < k
        · rw [getLsbD_packed (by omega) (by omega), getLsbD_packed (by omega) (by omega)]
        · have hb := hbit (i - k)
          have hlow : ¬ w - k ≤ i - k := by omega
          simpa [hlow, Nat.add_sub_cancel' (Nat.not_lt.mp hik)] using hb
      rw [hhead, ih hl' (by omega) htail]

theorem absorb_injective (hp : poly.getLsbD 0 = true) (b : BitVec k) :
    Function.Injective fun r : BitVec w ↦ absorb poly r b := by
  intro r r' h
  exact (BitVec.xor_left_inj _).mp ((shift_injective hp).iterate k h)

theorem foldl_absorb_injective (hp : poly.getLsbD 0 = true) (bs : List (BitVec k)) :
    Function.Injective fun r : BitVec w ↦ bs.foldl (absorb poly) r := by
  induction bs with
  | nil => exact fun _ _ h ↦ h
  | cons b bs ih => exact fun r r' h ↦ absorb_injective hp b (ih h)

/-- An error confined to a window no wider than the register always shows. -/
theorem foldl_absorb_burst (hp : poly.getLsbD 0 = true) {bs cs : List (BitVec k)}
    (hl : bs.length = cs.length) (hk : bs.length * k ≤ w) (hne : bs ≠ cs)
    (before after : List (BitVec k)) (r : BitVec w) :
    (before ++ bs ++ after).foldl (absorb poly) r ≠ (before ++ cs ++ after).foldl (absorb poly) r := by
  intro h
  rw [List.foldl_append, List.foldl_append, List.foldl_append, List.foldl_append] at h
  have hwindow := foldl_absorb_injective hp after h
  rw [foldl_absorb bs hk, foldl_absorb cs (hl ▸ hk), hl] at hwindow
  have hpacked := (BitVec.xor_right_inj _).mp ((shift_injective hp).iterate _ hwindow)
  exact hne (packed_injective hl hk hpacked)

theorem top_xor (a b : BitVec k) : (top (a ^^^ b) : BitVec w) = top a ^^^ top b := by
  unfold top
  rw [BitVec.setWidth_xor, BitVec.shiftLeft_xor_distrib]

/-- Registers and symbols go in side by side: the difference of two runs is the run of the
differences. -/
theorem absorb_xor (r r' : BitVec w) (b b' : BitVec k) :
    absorb poly (r ^^^ r') (b ^^^ b') = absorb poly r b ^^^ absorb poly r' b' := by
  have hswap : r ^^^ r' ^^^ (top b ^^^ top b') = (r ^^^ top b) ^^^ (r' ^^^ top b') := by
    ac_rfl
  rw [absorb, absorb, absorb, top_xor, hswap, iterate_shift_xor]

theorem foldl_absorb_xor {bs cs : List (BitVec k)} (hl : bs.length = cs.length)
    (r r' : BitVec w) : (List.zipWith (· ^^^ ·) bs cs).foldl (absorb poly) (r ^^^ r') =
      bs.foldl (absorb poly) r ^^^ cs.foldl (absorb poly) r' := by
  induction bs generalizing cs r r' with
  | nil =>
    obtain rfl := List.length_eq_zero_iff.mp hl.symm
    rfl
  | cons b bs ih =>
    cases cs with
    | nil => cases hl
    | cons c cs =>
      rw [List.zipWith_cons_cons, List.foldl_cons, absorb_xor, ih (Nat.succ.inj hl)]
      rfl

/-- A register that takes in its own content is empty. -/
theorem foldl_absorb_self {bs : List (BitVec k)} (hk : bs.length * k ≤ w) :
    bs.foldl (absorb poly) (packed bs) = 0 := by
  have hzero : shift poly 0 = 0 := by simp [shift]
  rw [foldl_absorb bs hk, BitVec.xor_self]
  exact Function.iterate_fixed hzero _

end ShiftRegister
