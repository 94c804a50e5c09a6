import BootstrapWifi.Spritz
import Mathlib.Logic.Equiv.Basic
import Mathlib.Algebra.Ring.Parity
import Mathlib.Data.FinEnum

namespace BootstrapWifi.Spritz

open Function

namespace State

theorem get_set {α : Type} {n : ℕ} (v : Vector α n) (i j : Fin n) (x : α) :
    (v.set i x).get j = if i = j then x else v.get j := by
  have h : (v.set i x)[j.val] = if i.val = j.val then x else v[j.val] :=
    Vector.getElem_set i.isLt j.isLt
  simp only [Fin.ext_iff]
  exact h

theorem read_swap_ite (st : State) (x y z : UInt8) :
    (st.swap x y).read z = if y = z then st.read x else if x = z then st.read y else st.read z := by
  unfold swap read
  simp only [get_set, UInt8.toFin_inj]

theorem read_swap (st : State) (x y z : UInt8) :
    (st.swap x y).read z = st.read (Equiv.swap x y z) := by
  rw [read_swap_ite, Equiv.swap_apply_def]
  by_cases hy : y = z
  · subst hy
    by_cases hx : y = x
    · simp [hx]
    · simp [hx]
  · by_cases hx : x = z
    · simp [hx, hy]
    · simp [hx, hy, eq_comm]

@[simp] theorem swap_a (st : State) (x y : UInt8) : (st.swap x y).a = st.a := rfl

@[simp] theorem swap_i (st : State) (x y : UInt8) : (st.swap x y).i = st.i := rfl

@[simp] theorem swap_j (st : State) (x y : UInt8) : (st.swap x y).j = st.j := rfl

@[simp] theorem swap_k (st : State) (x y : UInt8) : (st.swap x y).k = st.k := rfl

@[simp] theorem swap_w (st : State) (x y : UInt8) : (st.swap x y).w = st.w := rfl

@[simp] theorem swap_z (st : State) (x y : UInt8) : (st.swap x y).z = st.z := rfl

structure SameRegisters (st st' : State) : Prop where
  a : st.a = st'.a
  i : st.i = st'.i
  j : st.j = st'.j
  k : st.k = st'.k
  w : st.w = st'.w
  z : st.z = st'.z

theorem SameRegisters.refl (st : State) : SameRegisters st st := ⟨rfl, rfl, rfl, rfl, rfl, rfl⟩

theorem SameRegisters.symm {st st' : State} (h : SameRegisters st st') : SameRegisters st' st :=
  ⟨h.a.symm, h.i.symm, h.j.symm, h.k.symm, h.w.symm, h.z.symm⟩

theorem SameRegisters.trans {st st' st'' : State} (h : SameRegisters st st')
    (h' : SameRegisters st' st'') : SameRegisters st st'' :=
  ⟨h.a.trans h'.a, h.i.trans h'.i, h.j.trans h'.j, h.k.trans h'.k, h.w.trans h'.w, h.z.trans h'.z⟩

theorem SameRegisters.eq {st st' : State} (h : SameRegisters st st')
    (hr : st.read = st'.read) : st = st' := by
  obtain ⟨ha, hi, hj, hk, hw, hz⟩ := h
  have hs : st.s = st'.s := Vector.ext fun n hn ↦ congrFun hr (UInt8.ofFin ⟨n, hn⟩)
  cases st
  cases st'
  cases hs
  cases ha
  cases hi
  cases hj
  cases hk
  cases hw
  cases hz
  rfl

theorem read_swap_injective {st st' : State} {x y : UInt8}
    (h : (st.swap x y).read = (st'.swap x y).read) : st.read = st'.read := by
  funext z
  have hz := congrFun h (Equiv.swap x y z)
  rw [read_swap, read_swap, Equiv.swap_apply_self] at hz
  exact hz

/-- What every function of the cipher may rely on: the table holds each byte
once, the step `w` is odd, and at most half the table has been absorbed into. -/
structure WellFormed (st : State) : Prop where
  injective : Injective st.read
  odd : Odd st.w.toNat
  absorbed : st.a ≤ 128

theorem WellFormed.bijective {st : State} (h : st.WellFormed) : Bijective st.read :=
  Finite.injective_iff_bijective.mp h.injective

end State

open State

theorem read_initializeState (x : UInt8) : initializeState.read x = x := by
  have h : initializeState.read x = x.toFin.val.toUInt8 :=
    Vector.getElem_ofFn x.toFin.isLt
  exact h.trans UInt8.ofNat_toNat

theorem wellFormed_initializeState : initializeState.WellFormed where
  injective := fun x y h ↦ by rwa [read_initializeState, read_initializeState] at h
  odd := ⟨0, rfl⟩
  absorbed := by decide

namespace State.WellFormed

variable {st : State}

theorem permuted {st' : State} (h : st.WellFormed) (e : Equiv.Perm UInt8)
    (hs : ∀ x, st'.read x = st.read (e x)) (hw : Odd st'.w.toNat) (ha : st'.a ≤ 128) :
    st'.WellFormed where
  injective := by
    intro x y hxy
    rw [hs, hs] at hxy
    exact e.injective (h.injective hxy)
  odd := hw
  absorbed := ha

theorem congr {st' : State} (h : st.WellFormed) (hs : st'.s = st.s)
    (hw : Odd st'.w.toNat) (ha : st'.a ≤ 128) : st'.WellFormed := by
  refine h.permuted (Equiv.refl _) (fun x ↦ ?_) hw ha
  unfold State.read
  rw [hs, Equiv.refl_apply]

theorem swap (h : st.WellFormed) (x y : UInt8) : (st.swap x y).WellFormed :=
  h.permuted (Equiv.swap x y) (read_swap st x y) h.odd h.absorbed

theorem absorbing (h : st.WellFormed) (ha : st.a ≠ 128) :
    ({ st with a := st.a + 1 } : State).WellFormed := by
  refine h.congr rfl h.odd ?_
  have hle := UInt8.le_iff_toNat_le.mp h.absorbed
  have hne : st.a.toNat ≠ 128 := fun h' ↦ ha (UInt8.toNat_inj.mp h')
  have hlt : st.a.toNat < 128 := Nat.lt_of_le_of_ne hle hne
  apply UInt8.le_iff_toNat_le.mpr
  simp only [UInt8.toNat_add, UInt8.reduceToNat]
  omega

end State.WellFormed

/-- The exchange that `update` makes in the table, at its new registers. -/
theorem read_update (st : State) (x : UInt8) :
    (update st).read x = st.read (Equiv.swap (update st).i (update st).j x) :=
  read_swap { st with i := (update st).i, j := (update st).j, k := (update st).k } _ _ x

theorem wellFormed_update {st : State} (h : st.WellFormed) : (update st).WellFormed :=
  h.permuted _ (read_update st) h.odd h.absorbed

theorem wellFormed_output {st : State} (h : st.WellFormed) : (output st).2.WellFormed := by
  unfold output
  exact h.congr rfl h.odd h.absorbed

theorem crushStep_eq (st : State) (v : UInt8) :
    crushStep st v = if st.read v > st.read (255 - v) then st.swap v (255 - v) else st := rfl

theorem wellFormed_crushStep {st : State} (h : st.WellFormed) (v : UInt8) :
    (crushStep st v).WellFormed := by
  rw [crushStep_eq]
  split
  · exact h.swap _ _
  · exact h

theorem wellFormed_crush {st : State} (h : st.WellFormed) : (crush st).WellFormed := by
  have hfold : ∀ (l : List ℕ) (st : State), st.WellFormed →
      (l.foldl (fun st v ↦ crushStep st v.toUInt8) st).WellFormed := by
    intro l
    induction l with
    | nil => exact fun _ h ↦ h
    | cons v l ih => exact fun st h ↦ ih _ (wellFormed_crushStep h _)
  exact hfold _ _ h

theorem wellFormed_updates {st : State} (h : st.WellFormed) (n : ℕ) :
    (update^[n] st).WellFormed := by
  induction n generalizing st with
  | zero => exact h
  | succ n ih => exact ih (wellFormed_update h)

theorem odd_add_two {w : UInt8} (h : Odd w.toNat) : Odd (w + 2).toNat := by
  have hodd := Nat.odd_iff.mp h
  simp only [Nat.odd_iff, UInt8.toNat_add, UInt8.reduceToNat]
  omega

theorem State.WellFormed.restep {st : State} (h : st.WellFormed) :
    ({ st with w := st.w + 2 } : State).WellFormed :=
  h.congr rfl (odd_add_two h.odd) h.absorbed

theorem wellFormed_whip {st : State} (h : st.WellFormed) : (whip st).WellFormed := by
  unfold whip
  exact (wellFormed_updates h 512).restep

theorem State.WellFormed.emptied {st : State} (h : st.WellFormed) :
    ({ st with a := 0 } : State).WellFormed :=
  h.congr rfl h.odd UInt8.zero_le

@[simp] theorem shuffle_a (st : State) : (shuffle st).a = 0 := rfl

theorem wellFormed_shuffle {st : State} (h : st.WellFormed) : (shuffle st).WellFormed := by
  have h1 := wellFormed_crush (wellFormed_whip h)
  have h2 := wellFormed_crush (wellFormed_whip h1)
  exact (wellFormed_whip h2).emptied

/-- The state that an absorption starts from: a full half is shuffled away first. -/
theorem wellFormed_room {st : State} (h : st.WellFormed) :
    (if st.a = 128 then shuffle st else st).WellFormed ∧
      (if st.a = 128 then shuffle st else st).a ≠ 128 := by
  split
  · exact ⟨wellFormed_shuffle h, by rw [shuffle_a]; decide⟩
  · rename_i ha
    exact ⟨h, ha⟩

theorem wellFormed_absorbStop {st : State} (h : st.WellFormed) :
    (absorbStop st).WellFormed := by
  obtain ⟨hroom, ha⟩ := wellFormed_room h
  exact hroom.absorbing ha

theorem wellFormed_absorbNibble {st : State} (h : st.WellFormed) (x : UInt8) :
    (absorbNibble st x).WellFormed := by
  obtain ⟨hroom, ha⟩ := wellFormed_room h
  exact (hroom.swap _ (128 + x)).absorbing ha

theorem wellFormed_absorbByte {st : State} (h : st.WellFormed) (b : UInt8) :
    (absorbByte st b).WellFormed :=
  wellFormed_absorbNibble (wellFormed_absorbNibble h _) _

theorem wellFormed_absorb {st : State} (h : st.WellFormed) (msg : List UInt8) :
    (absorb st msg).WellFormed := by
  unfold absorb
  induction msg generalizing st with
  | nil => exact h
  | cons b msg ih => exact ih (wellFormed_absorbByte h b)

theorem wellFormed_squeezed {st : State} (h : st.WellFormed) :
    (if st.a > 0 then shuffle st else st).WellFormed := by
  split
  · exact wellFormed_shuffle h
  · exact h

theorem wellFormed_drip {st : State} (h : st.WellFormed) : (drip st).2.WellFormed :=
  wellFormed_output (wellFormed_update (wellFormed_squeezed h))

theorem wellFormed_drips {st : State} (h : st.WellFormed) (n : ℕ) :
    (drips n st).2.WellFormed := by
  induction n generalizing st with
  | zero => exact h
  | succ n ih => exact ih (wellFormed_drip h)

theorem wellFormed_squeeze {st : State} (h : st.WellFormed) (outlen : ℕ) :
    (squeeze outlen st).2.WellFormed :=
  wellFormed_drips (wellFormed_squeezed h) outlen

theorem wellFormed_session (nonce key : List UInt8) : (session nonce key).WellFormed :=
  wellFormed_absorb (wellFormed_absorbStop (wellFormed_absorb wellFormed_initializeState key)) nonce

/-- What the public functions are made of, once the state is initialized. -/
inductive Call
  | absorb (msg : List UInt8)
  | absorbStop
  | drip
  | squeeze (outlen : ℕ)

def Call.run (st : State) : Call → State
  | .absorb msg => Spritz.absorb st msg
  | .absorbStop => Spritz.absorbStop st
  | .drip => (Spritz.drip st).2
  | .squeeze outlen => (Spritz.squeeze outlen st).2

theorem wellFormed_call {st : State} (h : st.WellFormed) (c : Call) : (c.run st).WellFormed := by
  cases c with
  | absorb msg => exact wellFormed_absorb h msg
  | absorbStop => exact wellFormed_absorbStop h
  | drip => exact wellFormed_drip h
  | squeeze outlen => exact wellFormed_squeeze h outlen

theorem wellFormed_calls {st : State} (h : st.WellFormed) (calls : List Call) :
    (calls.foldl Call.run st).WellFormed := by
  induction calls generalizing st with
  | nil => exact h
  | cons c calls ih => exact ih (wellFormed_call h c)

/-- Whatever is absorbed and squeezed in whatever order, the table stays a permutation of the
bytes, so no entry of it is ever lost or doubled; the counter stays in the first half, where
`absorbNibble` exchanges, and the step stays odd. -/
theorem cipher_state_sound (calls : List Call) :
    Bijective (calls.foldl Call.run initializeState).read ∧
      (calls.foldl Call.run initializeState).a ≤ 128 ∧
      Odd (calls.foldl Call.run initializeState).w.toNat := by
  have h := wellFormed_calls wellFormed_initializeState calls
  exact ⟨h.bijective, h.absorbed, h.odd⟩

end BootstrapWifi.Spritz
