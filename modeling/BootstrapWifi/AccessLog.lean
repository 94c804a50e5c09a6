import Mathlib.Data.List.Basic

namespace AccessLog

/-- A computation together with the memory accesses it has made. -/
structure Logged (β α : Type) where
  val : α
  log : List β

variable {β α γ : Type}

namespace Logged

protected def pure (a : α) : Logged β α := ⟨a, []⟩

protected def bind (x : Logged β α) (f : α → Logged β γ) : Logged β γ :=
  ⟨(f x.val).val, x.log ++ (f x.val).log⟩

instance : Monad (Logged β) where
  pure := Logged.pure
  bind := Logged.bind

@[simp] theorem val_pure (a : α) : (pure a : Logged β α).val = a := rfl

@[simp] theorem log_pure (a : α) : (pure a : Logged β α).log = [] := rfl

@[simp] theorem val_bind (x : Logged β α) (f : α → Logged β γ) :
    (x >>= f).val = (f x.val).val := rfl

@[simp] theorem log_bind (x : Logged β α) (f : α → Logged β γ) :
    (x >>= f).log = x.log ++ (f x.val).log := rfl

def Within (P : β → Prop) (x : Logged β α) : Prop := ∀ b ∈ x.log, P b

@[simp] theorem within_pure (P : β → Prop) (a : α) : Within P (pure a) := by simp [Within]

@[simp] theorem within_bind (P : β → Prop) (x : Logged β α) (f : α → Logged β γ) :
    Within P (x >>= f) ↔ Within P x ∧ Within P (f x.val) := by
  simp [Within, or_imp, forall_and]

/-- `n` accesses from `off` on stay below a bound that all of them have to meet. -/
theorem within_range' {P : β → Prop} {x : Logged β α} {f : ℕ → β} {off n bound : ℕ}
    (hlog : x.log = (List.range' off n).map f) (hf : ∀ i < bound, P (f i))
    (h : off + n ≤ bound) : Within P x := by
  intro b hb
  rw [hlog] at hb
  obtain ⟨i, hi, rfl⟩ := List.mem_map.mp hb
  obtain ⟨-, hlt⟩ := List.mem_range'_1.mp hi
  exact hf i (Nat.lt_of_lt_of_le hlt h)

@[simp] theorem val_ite (c : Prop) [Decidable c] (x y : Logged β α) :
    (if c then x else y).val = if c then x.val else y.val := by
  split <;> rfl

end Logged

end AccessLog
