import Mathlib.Data.List.Induction

namespace Sponge

variable {σ τ : Type}

/-- A state that takes symbols in one after the other. `Holds n` are the states that
have taken `n` of them, and until the state is full nothing taken in is forgotten. -/
structure Absorption (σ τ : Type) where
  start : σ
  step : σ → τ → σ
  capacity : ℕ
  Holds : ℕ → σ → Prop
  holds_start : Holds 0 start
  holds_step : ∀ {n s} t, n < capacity → Holds n s → Holds (n + 1) (step s t)
  holds_unique : ∀ {m n s}, Holds m s → Holds n s → m = n
  step_injective : ∀ {n s s' t t'}, n < capacity → Holds n s → Holds n s' →
    step s t = step s' t' → s = s' ∧ t = t'

namespace Absorption

variable (A : Absorption σ τ)

def absorb (l : List τ) : σ := l.foldl A.step A.start

theorem absorb_concat (l : List τ) (t : τ) : A.absorb (l ++ [t]) = A.step (A.absorb l) t := by
  simp [absorb]

theorem holds_absorb {l : List τ} (hl : l.length ≤ A.capacity) : A.Holds l.length (A.absorb l) := by
  induction l using List.reverseRecOn with
  | nil => exact A.holds_start
  | append_singleton l t ih =>
    rw [List.length_append, List.length_singleton] at hl
    rw [absorb_concat, List.length_append, List.length_singleton]
    exact A.holds_step t hl (ih (Nat.le_of_succ_le hl))

theorem absorb_injective {l l' : List τ} (hl : l.length ≤ A.capacity)
    (hl' : l'.length ≤ A.capacity) (h : A.absorb l = A.absorb l') : l = l' := by
  induction l using List.reverseRecOn generalizing l' with
  | nil =>
    have hn := A.holds_unique A.holds_start (h ▸ A.holds_absorb hl')
    exact (List.length_eq_zero_iff.mp hn.symm).symm
  | append_singleton l t ih =>
    have hsame := A.holds_unique (A.holds_absorb hl) (h ▸ A.holds_absorb hl')
    cases l' using List.reverseRecOn with
    | nil => simp at hsame
    | append_singleton l' t' =>
      rw [List.length_append, List.length_singleton] at hl hl'
      simp only [List.length_append, List.length_singleton, Nat.add_right_cancel_iff] at hsame
      rw [absorb_concat, absorb_concat] at h
      have hs := A.holds_absorb (Nat.le_of_succ_le hl)
      have hs' := A.holds_absorb (Nat.le_of_succ_le hl')
      rw [← hsame] at hs'
      obtain ⟨hstate, rfl⟩ := A.step_injective hl hs hs' h
      rw [ih (Nat.le_of_succ_le hl) (Nat.le_of_succ_le hl') hstate]

end Absorption

end Sponge
