import Mathlib.Data.List.Basic
import Mathlib.Logic.Function.Iterate

namespace StreamCipher

variable {σ α : Type}

/-- Combine a message with the symbols a generator emits, one after the other. -/
def apply (next : σ → α × σ) (f : α → α → α) : List α → σ → List α
  | [], _ => []
  | x :: xs, st => f x (next st).1 :: apply next f xs (next st).2

@[simp] theorem length_apply (next : σ → α × σ) (f : α → α → α) (xs : List α) (st : σ) :
    (apply next f xs st).length = xs.length := by
  induction xs generalizing st with
  | nil => rfl
  | cons x xs ih => simp [apply, ih]

/-- The generator never sees the message, so undoing each symbol undoes the whole. -/
theorem apply_apply {next : σ → α × σ} {f g : α → α → α} (hfg : ∀ x k, g (f x k) k = x)
    (xs : List α) (st : σ) : apply next g (apply next f xs st) st = xs := by
  induction xs generalizing st with
  | nil => rfl
  | cons x xs ih => simp only [apply, hfg, ih]

/-- The symbols before a place decide nothing behind it but how far the generator is. -/
theorem apply_append (next : σ → α × σ) (f : α → α → α) (xs ys : List α) (st : σ) :
    apply next f (xs ++ ys) st =
      apply next f xs st ++ apply next f ys ((fun st ↦ (next st).2)^[xs.length] st) := by
  induction xs generalizing st with
  | nil => rfl
  | cons x xs ih =>
    simp only [List.cons_append, apply, ih, List.length_cons, Function.iterate_succ_apply]

theorem apply_injective {next : σ → α × σ} {f : α → α → α} (hf : ∀ k, Function.Injective (f · k))
    {xs ys : List α} {st : σ} (h : apply next f xs st = apply next f ys st) : xs = ys := by
  induction xs generalizing ys st with
  | nil =>
    cases ys with
    | nil => rfl
    | cons => cases h
  | cons x xs ih =>
    cases ys with
    | nil => cases h
    | cons y ys =>
      obtain ⟨hhead, htail⟩ := List.cons.inj h
      rw [hf _ hhead, ih htail]

/-- A change confined to a window of the message is confined to that window of the result. -/
theorem apply_window (next : σ → α × σ) {f : α → α → α} (hf : ∀ k, Function.Injective (f · k))
    {bs cs : List α} (hl : bs.length = cs.length) (hne : bs ≠ cs) (before after : List α) (st : σ) :
    ∃ u b c v, apply next f (before ++ bs ++ after) st = u ++ b ++ v ∧
      apply next f (before ++ cs ++ after) st = u ++ c ++ v ∧ b.length = bs.length ∧
      c.length = cs.length ∧ b ≠ c := by
  have hwhere : (before ++ bs).length = (before ++ cs).length := by
    rw [List.length_append, List.length_append, hl]
  refine ⟨_, _, _, _, by rw [apply_append, apply_append], ?_, length_apply _ _ _ _,
    length_apply _ _ cs _, fun h ↦ hne (apply_injective hf h)⟩
  rw [apply_append, apply_append, hwhere]

end StreamCipher
