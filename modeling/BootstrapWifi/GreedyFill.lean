import Mathlib.Data.List.Basic

namespace GreedyFill

variable {α : Type} (size : α → ℕ) (keep : α → Bool)

/-- Put the elements to keep into the room, in order; the first that exceeds what is left,
kept or not, is the end. -/
def fill : ℕ → List α → List α
  | _, [] => []
  | room, a :: l =>
    if room < size a then []
    else if keep a then a :: fill (room - size a) l
    else fill room l

def used : List α → ℕ
  | [] => 0
  | a :: l => size a + used l

/-- `es` are the elements of `l` to keep that come before the first element that exceeds
the room left at its turn. -/
def Fills (room : ℕ) (l es : List α) : Prop :=
  ∃ k, es = (l.take k).filter keep ∧
    (∀ i a, i < k → l[i]? = some a → used size ((l.take i).filter keep) + size a ≤ room) ∧
    ∀ a, l[k]? = some a → room < used size ((l.take k).filter keep) + size a

variable {size keep} {keep' : α → Bool} {room : ℕ} {l es : List α} {a : α}

@[simp] theorem used_nil : used size ([] : List α) = 0 := rfl

@[simp] theorem used_cons (a : α) (l : List α) : used size (a :: l) = size a + used size l := rfl

theorem keep_of_mem_fill (h : a ∈ fill size keep room l) : keep a = true := by
  induction l generalizing room with
  | nil => cases h
  | cons b l ih =>
    unfold fill at h
    split at h
    · cases h
    · split at h
      next hb =>
        rcases List.mem_cons.mp h with heq | hmem
        · rwa [heq]
        · exact ih hmem
      next => exact ih h

theorem fill_congr (hkeep : ∀ b, keep' b = true → keep b = true)
    (hall : ∀ b ∈ fill size keep room l, keep' b = true) :
    fill size keep' room l = fill size keep room l := by
  induction l generalizing room with
  | nil => exact rfl
  | cons b l ih =>
    unfold fill at hall ⊢
    by_cases hfull : room < size b
    · rw [if_pos hfull, if_pos hfull]
    · rw [if_neg hfull] at hall ⊢
      rw [if_neg hfull]
      by_cases hb : keep b = true
      · rw [if_pos hb] at hall ⊢
        rw [if_pos (hall b List.mem_cons_self),
          ih fun c hc ↦ hall c (List.mem_cons_of_mem _ hc)]
      · rw [if_neg hb] at hall ⊢
        rw [if_neg fun h ↦ hb (hkeep b h), ih hall]

/-- Keeping less makes no difference in exactly the cases where all that is put into the
room is kept still. -/
theorem fill_eq_fill_iff (hkeep : ∀ b, keep' b = true → keep b = true) :
    fill size keep' room l = fill size keep room l ↔
      ∀ b ∈ fill size keep room l, keep' b = true := by
  constructor
  · intro heq b hb
    rw [← heq] at hb
    exact keep_of_mem_fill hb
  · exact fill_congr hkeep

theorem fills_nil : Fills size keep room [] es ↔ es = [] := by
  constructor
  · intro h
    obtain ⟨k, hes, -, -⟩ := h
    rwa [List.take_nil, List.filter_nil] at hes
  · intro hes
    refine ⟨0, hes, fun i a hi ↦ absurd hi (Nat.not_lt_zero i), fun a ha ↦ ?_⟩
    cases ha

theorem fills_cons_full (hfull : room < size a) : Fills size keep room (a :: l) es ↔ es = [] := by
  constructor
  · intro h
    obtain ⟨k, hes, hbefore, -⟩ := h
    cases k with
    | zero => exact hes
    | succ k =>
      have hfit := hbefore 0 a (Nat.succ_pos k) rfl
      rw [List.take_zero, List.filter_nil, used_nil, Nat.zero_add] at hfit
      exact absurd hfull (Nat.not_lt.mpr hfit)
  · intro hes
    refine ⟨0, hes, fun i b hi ↦ absurd hi (Nat.not_lt_zero i), fun b hb ↦ ?_⟩
    obtain rfl := Option.some.inj hb
    rw [List.take_zero, List.filter_nil, used_nil, Nat.zero_add]
    exact hfull

theorem filter_take_succ (a : α) (l : List α) (i : ℕ) :
    ((a :: l).take (i + 1)).filter keep =
      if keep a then a :: (l.take i).filter keep else (l.take i).filter keep := by
  rw [List.take_succ_cons, List.filter_cons]

theorem used_take_succ (a : α) (l : List α) (i : ℕ) :
    used size (((a :: l).take (i + 1)).filter keep) =
      (if keep a then size a else 0) + used size ((l.take i).filter keep) := by
  rw [filter_take_succ]
  split
  · exact used_cons _ _
  · exact (Nat.zero_add _).symm

theorem fills_cons (hfit : size a ≤ room) :
    Fills size keep room (a :: l) es ↔
      ∃ es', es = (if keep a then a :: es' else es') ∧
        Fills size keep (room - if keep a then size a else 0) l es' := by
  have hle : (if keep a then size a else 0) ≤ room := by
    split
    · exact hfit
    · exact Nat.zero_le room
  constructor
  · intro h
    obtain ⟨k, hes, hbefore, hend⟩ := h
    cases k with
    | zero =>
      have hfull := hend a rfl
      rw [List.take_zero, List.filter_nil, used_nil, Nat.zero_add] at hfull
      exact absurd hfull (Nat.not_lt.mpr hfit)
    | succ k =>
      rw [filter_take_succ] at hes
      refine ⟨_, hes, k, rfl, fun i b hi hb ↦ ?_, fun b hb ↦ ?_⟩
      · have hroom := hbefore (i + 1) b (Nat.succ_lt_succ hi) hb
        rw [used_take_succ] at hroom
        omega
      · have hroom := hend b hb
        rw [used_take_succ] at hroom
        omega
  · intro h
    obtain ⟨es', hes, k, hes', hbefore, hend⟩ := h
    refine ⟨k + 1, by rw [hes, hes', filter_take_succ], fun i b hi hb ↦ ?_, fun b hb ↦ ?_⟩
    · cases i with
      | zero =>
        obtain rfl := Option.some.inj hb
        rw [List.take_zero, List.filter_nil, used_nil, Nat.zero_add]
        exact hfit
      | succ i =>
        have hroom := hbefore i b (Nat.lt_of_succ_lt_succ hi) hb
        rw [used_take_succ]
        omega
    · have hroom := hend b hb
      rw [used_take_succ]
      omega

theorem fills_iff : Fills size keep room l es ↔ es = fill size keep room l := by
  induction l generalizing room es with
  | nil => exact fills_nil
  | cons a l ih =>
    unfold fill
    by_cases hfull : room < size a
    · rw [if_pos hfull]
      exact fills_cons_full hfull
    · rw [if_neg hfull, fills_cons (Nat.not_lt.mp hfull)]
      simp only [ih, exists_eq_right]
      split
      · exact Iff.rfl
      · rw [Nat.sub_zero]

end GreedyFill
