import BootstrapWifi.SpritzState

namespace BootstrapWifi.Spritz

open State

/-- The mirror image of a place of the table. -/
def mirror (v : UInt8) : UInt8 := 255 - v

@[simp] theorem mirror_mirror (v : UInt8) : mirror (mirror v) = v := by
  unfold mirror
  grind

theorem mirror_ne (v : UInt8) : mirror v ≠ v := by
  unfold mirror
  grind

theorem toNat_mirror (v : UInt8) : (mirror v).toNat = 255 - v.toNat := by
  have h : v ≤ 255 := UInt8.le_iff_toNat_le.mpr (Nat.le_of_lt_succ v.toNat_lt)
  exact UInt8.toNat_sub_of_le 255 v h

theorem min_def (x y : UInt8) : min x y = if x ≤ y then x else y := rfl

theorem max_def (x y : UInt8) : max x y = if x ≤ y then y else x := rfl

theorem read_crushStep (st : State) (v x : UInt8) :
    (crushStep st v).read x =
      if x = v then min (st.read x) (st.read (mirror x))
      else if x = mirror v then max (st.read x) (st.read (mirror x))
      else st.read x := by
  have hne := mirror_ne v
  rw [crushStep_eq, min_def, max_def]
  change State.read (if st.read v > st.read (mirror v) then st.swap v (mirror v) else st) x = _
  by_cases hgt : st.read v > st.read (mirror v)
  · have hnle : ¬ st.read v ≤ st.read (mirror v) := UInt8.not_le.mpr hgt
    have hle : st.read (mirror v) ≤ st.read v := UInt8.le_of_lt hgt
    rw [if_pos hgt, read_swap_ite]
    by_cases hx : x = v
    · subst hx
      simp [hne, hnle]
    · by_cases hm : x = mirror v
      · subst hm
        simp [hne, hle]
      · simp [hx, hm, Ne.symm hx, Ne.symm hm]
  · have hle : st.read v ≤ st.read (mirror v) := UInt8.not_lt.mp hgt
    rw [if_neg hgt]
    by_cases hx : x = v
    · subst hx
      simp [hle]
    · by_cases hm : x = mirror v
      · subst hm
        simp only [mirror_mirror, hne, if_false, if_true]
        split
        · exact UInt8.le_antisymm ‹_› hle
        · rfl
      · simp [hx, hm]

/-- The table once the pairs of the places before `n` are ordered. -/
def ordered (st : State) (n : ℕ) (x : UInt8) : UInt8 :=
  if x.toNat < n then min (st.read x) (st.read (mirror x))
  else if (mirror x).toNat < n then max (st.read x) (st.read (mirror x))
  else st.read x

theorem eq_mirror_iff (x v : UInt8) : x = mirror v ↔ (mirror x).toNat = v.toNat := by
  rw [UInt8.toNat_inj]
  constructor
  · rintro rfl
    exact mirror_mirror v
  · rintro rfl
    exact (mirror_mirror x).symm

theorem ordered_of_le {st : State} {n : ℕ} {x : UInt8} (hx : n ≤ x.toNat)
    (hm : n ≤ (mirror x).toNat) : ordered st n x = st.read x := by
  rw [ordered, if_neg (Nat.not_lt.mpr hx), if_neg (Nat.not_lt.mpr hm)]

/-- A turn at `v` orders one pair more, which the turns before it have not touched. -/
theorem ordered_succ {st st' : State} {v : UInt8} (hv : v.toNat < 128)
    (h : ∀ x, st'.read x = ordered st v.toNat x) (x : UInt8) :
    (crushStep st' v).read x = ordered st (v.toNat + 1) x := by
  have hm := toNat_mirror x
  have hlt := x.toNat_lt
  rw [read_crushStep, h x, h (mirror x)]
  by_cases hx : x = v
  · subst hx
    rw [if_pos rfl, ordered_of_le (by omega) (by omega), ordered_of_le (by omega)
      (by rw [mirror_mirror]), ordered, if_pos (by omega)]
  · have hxn : x.toNat ≠ v.toNat := mt UInt8.toNat_inj.mp hx
    rw [if_neg hx]
    by_cases hp : x = mirror v
    · have hpn := (eq_mirror_iff x v).mp hp
      rw [if_pos hp, ordered_of_le (by omega) (by omega), ordered_of_le (by omega)
        (by rw [mirror_mirror]; omega), ordered, if_neg (by omega), if_pos (by omega)]
    · have hpn := mt (eq_mirror_iff x v).mpr hp
      have h1 : x.toNat < v.toNat + 1 ↔ x.toNat < v.toNat := by omega
      have h2 : (mirror x).toNat < v.toNat + 1 ↔ (mirror x).toNat < v.toNat := by omega
      rw [if_neg hp, ordered, ordered]
      simp only [h1, h2]

theorem read_crush_prefix (st : State) {n : ℕ} (hn : n ≤ 128) (x : UInt8) :
    ((List.range n).foldl (fun st v ↦ crushStep st v.toUInt8) st).read x = ordered st n x := by
  induction n generalizing x with
  | zero =>
    rw [ordered_of_le x.toNat.zero_le (mirror x).toNat.zero_le]
    rfl
  | succ n ih =>
    have hv : n.toUInt8.toNat = n := by
      rw [Nat.toUInt8_eq, UInt8.toNat_ofNat']
      omega
    have hstep := ordered_succ (v := n.toUInt8) (by omega) (fun y ↦ hv.symm ▸ ih (by omega) y) x
    rw [hv] at hstep
    rw [List.range_succ, List.foldl_append]
    exact hstep

theorem read_crush (st : State) (x : UInt8) :
    (crush st).read x =
      if x.toNat < 128 then min (st.read x) (st.read (mirror x))
      else max (st.read x) (st.read (mirror x)) := by
  have hm := toNat_mirror x
  rw [crush, read_crush_prefix st le_rfl, ordered]
  by_cases hx : x.toNat < 128
  · rw [if_pos hx, if_pos hx]
  · rw [if_neg hx, if_neg hx, if_pos (by omega)]

theorem crush_registers (st : State) : SameRegisters (crush st) st := by
  have hstep : ∀ st v, SameRegisters (crushStep st v) st := by
    intro st v
    rw [crushStep_eq]
    split
    · exact ⟨rfl, rfl, rfl, rfl, rfl, rfl⟩
    · exact .refl st
  have hfold : ∀ (l : List ℕ) (st : State),
      SameRegisters (l.foldl (fun st v ↦ crushStep st v.toUInt8) st) st := by
    intro l
    induction l with
    | nil => exact fun st ↦ .refl st
    | cons v l ih => exact fun st ↦ (ih _).trans (hstep st _)
  exact hfold _ st

/-- The entries at a place and at its mirror image agree, or have changed sides. -/
def SamePair (st st' : State) (x : UInt8) : Prop :=
  (st.read x = st'.read x ∧ st.read (mirror x) = st'.read (mirror x)) ∨
    (st.read x = st'.read (mirror x) ∧ st.read (mirror x) = st'.read x)

theorem samePair_iff_min_max {st st' : State} {x : UInt8} : SamePair st st' x ↔
    min (st.read x) (st.read (mirror x)) = min (st'.read x) (st'.read (mirror x)) ∧
      max (st.read x) (st.read (mirror x)) = max (st'.read x) (st'.read (mirror x)) := by
  simp only [SamePair, min_def, max_def]
  grind

theorem min_comm (x y : UInt8) : min x y = min y x := by
  simp only [min_def]
  grind

theorem max_comm (x y : UInt8) : max x y = max y x := by
  simp only [max_def]
  grind

theorem crush_congr {st st' : State} (hreg : SameRegisters st st')
    (hpair : ∀ x, SamePair st st' x) : crush st = crush st' := by
  refine ((crush_registers st).trans (hreg.trans (crush_registers st').symm)).eq (funext fun x ↦ ?_)
  obtain ⟨hmin, hmax⟩ := samePair_iff_min_max.mp (hpair x)
  rw [read_crush, read_crush, hmin, hmax]

/-- What `crush` forgets is which of the entries of each mirrored pair stood first, and nothing
else. -/
theorem crush_eq_crush_iff {st st' : State} :
    crush st = crush st' ↔ SameRegisters st st' ∧ ∀ x, SamePair st st' x := by
  constructor
  · intro h
    have hreg := crush_registers st'
    rw [← h] at hreg
    refine ⟨(crush_registers st).symm.trans hreg, fun x ↦ ?_⟩
    have hm := toNat_mirror x
    have hlt := x.toNat_lt
    have hx := congrArg (fun t ↦ t.read x) h
    have hy := congrArg (fun t ↦ t.read (mirror x)) h
    simp only [read_crush, mirror_mirror] at hx hy
    rw [samePair_iff_min_max]
    by_cases hlo : x.toNat < 128
    · rw [if_pos hlo, if_pos hlo] at hx
      rw [if_neg (by omega), if_neg (by omega), max_comm, max_comm (st'.read _)] at hy
      exact ⟨hx, hy⟩
    · rw [if_neg hlo, if_neg hlo] at hx
      rw [if_pos (by omega), if_pos (by omega), min_comm, min_comm (st'.read _)] at hy
      exact ⟨hy, hx⟩
  · exact fun ⟨hreg, hpair⟩ ↦ crush_congr hreg hpair

theorem samePair_crush (st : State) (x : UInt8) : SamePair (crush st) st x := by
  have hm := toNat_mirror x
  have hlt := x.toNat_lt
  unfold SamePair
  rw [read_crush, read_crush, mirror_mirror]
  by_cases hlo : x.toNat < 128
  · rw [if_pos hlo, if_neg (by omega)]
    simp only [min_def, max_def]
    grind
  · rw [if_neg hlo, if_pos (by omega)]
    simp only [min_def, max_def]
    grind

theorem crush_crush (st : State) : crush (crush st) = crush st :=
  crush_congr (crush_registers st) (samePair_crush st)

end BootstrapWifi.Spritz
