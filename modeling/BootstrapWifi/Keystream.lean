import BootstrapWifi.StreamCipher
import Mathlib.Dynamics.PeriodicPts.Lemmas

namespace StreamCipher

open Function

variable {σ α : Type} {next : σ → α × σ} {Good : σ → Prop} {st : σ}

def advance (next : σ → α × σ) (st : σ) : σ := (next st).2

/-- The symbol a generator emits after `n` others. -/
def symbol (next : σ → α × σ) (st : σ) (n : ℕ) : α := (next ((advance next)^[n] st)).1

theorem getElem?_apply (f : α → α → α) (xs : List α) (st : σ) (n : ℕ) :
    (apply next f xs st)[n]? = xs[n]?.map (f · (symbol next st n)) := by
  induction xs generalizing st n with
  | nil => rfl
  | cons x xs ih =>
    cases n with
    | zero => rfl
    | succ n => exact ih (next st).2 n

/-- What one and the same key stream hides of two messages is not their difference. -/
theorem zipWith_apply {f g : α → α → α} (hfg : ∀ x y k, g (f x k) (f y k) = g x y)
    (xs ys : List α) (st : σ) :
    List.zipWith g (apply next f xs st) (apply next f ys st) = List.zipWith g xs ys := by
  induction xs generalizing ys st with
  | nil => rfl
  | cons x xs ih =>
    cases ys with
    | nil => rfl
    | cons y ys => rw [apply, apply, List.zipWith_cons_cons, List.zipWith_cons_cons, hfg, ih]

/-- Exchanges a window of a result for what it would be with other symbols of the message. -/
def patch (add sub : α → α → α) (cs : List α) (off : ℕ) (known new : List α) : List α :=
  cs.take off ++ List.zipWith add ((cs.drop off).take known.length) (List.zipWith sub new known) ++
    cs.drop (off + known.length)

theorem zipWith_zipWith_apply {f add sub : α → α → α}
    (hadd : ∀ x y k, add (f x k) (sub y x) = f y k) {xs ys : List α}
    (hl : ys.length = xs.length) (st : σ) :
    List.zipWith add (apply next f xs st) (List.zipWith sub ys xs) = apply next f ys st := by
  induction xs generalizing ys st with
  | nil => rw [List.length_eq_zero_iff.mp hl]; rfl
  | cons x xs ih =>
    cases ys with
    | nil => cases hl
    | cons y ys => simp only [apply, List.zipWith_cons_cons, hadd, ih (Nat.succ.inj hl)]

/-- Whoever knows a window of a message can exchange it without knowing the generator. -/
theorem patch_apply {f add sub : α → α → α}
    (hadd : ∀ x y k, add (f x k) (sub y x) = f y k) {known new : List α}
    (hl : new.length = known.length) (before after : List α) (st : σ) :
    patch add sub (apply next f (before ++ known ++ after) st) before.length known new =
      apply next f (before ++ new ++ after) st := by
  have hb : (apply next f before st).length = before.length := length_apply _ _ _ _
  have hk (st : σ) : (apply next f known st).length = known.length := length_apply _ _ _ _
  simp only [patch, apply_append, List.append_assoc, List.take_left' hb, List.drop_left' hb,
    List.take_left' (hk _), ← List.drop_drop, List.drop_left' (hk _),
    zipWith_zipWith_apply hadd hl, hl]

/-- No two good states lead to the same one. -/
structure Reversible (next : σ → α × σ) (Good : σ → Prop) : Prop where
  keeps : ∀ {st}, Good st → Good (advance next st)
  injective : ∀ {st st'}, Good st → Good st' → advance next st = advance next st' → st = st'

/-- A reversible generator returns to where it started. -/
theorem Reversible.mem_periodicPts [Finite σ] (h : Reversible next Good) (hs : Good st) :
    st ∈ periodicPts (advance next) := by
  let step (x : {st // Good st}) : {st // Good st} := ⟨advance next x.1, h.keeps x.2⟩
  have hstep : Injective step := by
    intro x y hxy
    exact Subtype.ext (h.injective x.2 y.2 (congrArg Subtype.val hxy))
  have hsemi : Semiconj Subtype.val step (advance next) := fun _ ↦ rfl
  exact hsemi.mapsTo_periodicPts (hstep.mem_periodicPts ⟨st, hs⟩)

theorem symbol_mod_period (n : ℕ) :
    symbol next st (n % minimalPeriod (advance next) st) = symbol next st n := by
  rw [symbol, symbol, iterate_mod_minimalPeriod_eq]

theorem iterate_eq_iterate_iff (hp : st ∈ periodicPts (advance next)) (m n : ℕ) :
    (advance next)^[m] st = (advance next)^[n] st ↔
      m % minimalPeriod (advance next) st = n % minimalPeriod (advance next) st := by
  have hpos := minimalPeriod_pos_of_mem_periodicPts hp
  constructor
  · intro h
    rw [← iterate_mod_minimalPeriod_eq, ← iterate_mod_minimalPeriod_eq (n := n)] at h
    exact iterate_injOn_Iio_minimalPeriod (Nat.mod_lt m hpos) (Nat.mod_lt n hpos) h
  · intro h
    rw [← iterate_mod_minimalPeriod_eq, h, iterate_mod_minimalPeriod_eq]

end StreamCipher
