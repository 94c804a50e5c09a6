import Mathlib.Data.List.Basic
import Mathlib.Data.List.TakeWhile

namespace Delimited

variable {α : Type} [DecidableEq α] (z : α)

def head (l : List α) : List α := l.takeWhile (· ≠ z)

def rest (l : List α) : List α := (l.dropWhile (· ≠ z)).tail

/-- The first `n` fields of a terminated sequence; missing fields are empty. -/
def fields : ℕ → List α → List (List α)
  | 0, _ => []
  | n + 1, l => head z l :: fields n (rest z l)

def encode : List (List α) → List α
  | [] => []
  | f :: fs => f ++ z :: encode fs

@[simp] theorem head_nil : head z [] = [] := rfl

@[simp] theorem rest_nil : rest z [] = [] := rfl

theorem head_cons_self (l : List α) : head z (z :: l) = [] := by simp [head]

theorem rest_cons_self (l : List α) : rest z (z :: l) = l := by simp [rest]

variable {z}

theorem head_cons_of_ne {x : α} (hx : x ≠ z) (l : List α) : head z (x :: l) = x :: head z l := by
  simp [head, hx]

theorem rest_cons_of_ne {x : α} (hx : x ≠ z) (l : List α) : rest z (x :: l) = rest z l := by
  simp [rest, hx]

/-- A field without terminator goes on in what follows. -/
theorem head_append_left {f : List α} (hf : z ∉ f) (l : List α) :
    head z (f ++ l) = f ++ head z l := by
  induction f with
  | nil => rfl
  | cons x f ih =>
    have hx : x ≠ z := fun h ↦ hf (by simp [h])
    have hf' : z ∉ f := fun h ↦ hf (List.mem_cons_of_mem _ h)
    rw [List.cons_append, head_cons_of_ne hx, ih hf', List.cons_append]

theorem head_append {f : List α} (hf : z ∉ f) (l : List α) : head z (f ++ z :: l) = f := by
  rw [head_append_left hf, head_cons_self, List.append_nil]

theorem rest_append {f : List α} (hf : z ∉ f) (l : List α) : rest z (f ++ z :: l) = l := by
  induction f with
  | nil => exact rest_cons_self z l
  | cons x f ih =>
    have hx : x ≠ z := fun h ↦ hf (by simp [h])
    have hf' : z ∉ f := fun h ↦ hf (List.mem_cons_of_mem _ h)
    rw [List.cons_append, rest_cons_of_ne hx, ih hf']

theorem not_mem_head (l : List α) : z ∉ head z l := by
  intro h
  have hz := List.mem_takeWhile_imp h
  simp at hz

/-- Reading back terminated fields gives the fields, whatever follows them. -/
theorem fields_encode (fs : List (List α)) (hf : ∀ f ∈ fs, z ∉ f) (l : List α) :
    fields z fs.length (encode z fs ++ l) = fs := by
  induction fs with
  | nil => rfl
  | cons f fs ih =>
    have h := hf f List.mem_cons_self
    simp only [encode, List.length_cons, fields, List.append_assoc, List.cons_append]
    rw [head_append h, rest_append h, ih fun g hg ↦ hf g (List.mem_cons_of_mem _ hg)]

theorem rest_eq_drop (l : List α) : rest z l = l.drop ((head z l).length + 1) := by
  induction l with
  | nil => simp
  | cons x l ih =>
    by_cases hx : x = z
    · subst hx
      rw [rest_cons_self, head_cons_self]
      rfl
    · rw [rest_cons_of_ne hx, head_cons_of_ne hx, ih]
      rfl

theorem length_head_le (l : List α) : (head z l).length ≤ l.length :=
  (List.takeWhile_sublist _).length_le

theorem length_rest_le (l : List α) : (rest z l).length ≤ l.length - 1 := by
  rw [rest_eq_drop, List.length_drop]
  omega

theorem length_head_le_of_getD {l : List α} {n : ℕ} (hn : l.getD n z = z) :
    (head z l).length ≤ n := by
  induction l generalizing n with
  | nil => exact Nat.zero_le n
  | cons x l ih =>
    by_cases hx : x = z
    · subst hx
      rw [head_cons_self]
      exact Nat.zero_le n
    · cases n with
      | zero => exact absurd hn hx
      | succ n =>
        rw [head_cons_of_ne hx]
        exact Nat.succ_le_succ (ih hn)

/-- A field that is not the last of its sequence is followed by its terminator. -/
theorem take_head {l : List α} (hl : (head z l).length < l.length) :
    l.take ((head z l).length + 1) = head z l ++ [z] := by
  induction l with
  | nil => exact absurd hl (lt_irrefl _)
  | cons x l ih =>
    by_cases hx : x = z
    · subst hx
      rw [head_cons_self]
      simp
    · rw [head_cons_of_ne hx] at hl ⊢
      have htail := ih (Nat.lt_of_succ_lt_succ hl)
      rw [List.length_cons, List.take_succ_cons, htail, List.cons_append]

theorem head_pad (l : List α) (k : ℕ) : head z (l ++ List.replicate k z) = head z l := by
  induction l with
  | nil =>
    cases k with
    | zero => rfl
    | succ k => exact head_cons_self z _
  | cons x l ih =>
    by_cases hx : x = z
    · subst hx
      rw [List.cons_append, head_cons_self, head_cons_self]
    · rw [List.cons_append, head_cons_of_ne hx, head_cons_of_ne hx, ih]

theorem rest_pad (l : List α) (k : ℕ) :
    ∃ j, rest z (l ++ List.replicate k z) = rest z l ++ List.replicate j z := by
  induction l with
  | nil =>
    cases k with
    | zero => exact ⟨0, rfl⟩
    | succ k => exact ⟨k, by simp [List.replicate_succ, rest_cons_self]⟩
  | cons x l ih =>
    by_cases hx : x = z
    · subst hx
      exact ⟨k, by rw [List.cons_append, rest_cons_self, rest_cons_self]⟩
    · obtain ⟨j, hj⟩ := ih
      exact ⟨j, by rw [List.cons_append, rest_cons_of_ne hx, rest_cons_of_ne hx, hj]⟩

/-- Terminators appended at the end change no field. -/
theorem fields_pad (n : ℕ) (l : List α) (k : ℕ) :
    fields z n (l ++ List.replicate k z) = fields z n l := by
  induction n generalizing l k with
  | zero => rfl
  | succ n ih =>
    obtain ⟨j, hj⟩ := rest_pad (z := z) l k
    simp only [fields, head_pad, hj, ih]

section Records

variable {β γ : Type} {read : List γ → Option (β × List γ)} {write : β → List γ}

def records (read : List γ → Option (β × List γ)) : ℕ → List γ → Option (List β × List γ)
  | 0, l => some ([], l)
  | n + 1, l => do
    let (b, l) ← read l
    let (bs, l) ← records read n l
    return (b :: bs, l)

theorem records_flatMap (hr : ∀ b l, read (write b ++ l) = some (b, l)) (bs : List β) (l : List γ) :
    records read bs.length (bs.flatMap write ++ l) = some (bs, l) := by
  induction bs with
  | nil => rfl
  | cons b bs ih =>
    rw [List.length_cons, List.flatMap_cons, List.append_assoc, records, hr]
    simp [ih]

end Records

end Delimited
