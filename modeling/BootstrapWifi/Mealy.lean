import Mathlib.Data.List.Basic

namespace Mealy

variable {σ ι ο α : Type}

/-- A deterministic system that answers every input with an output. -/
structure Machine (σ ι ο : Type) where
  start : σ
  step : ι → σ → σ × ο

structure Move (σ ι ο : Type) where
  pre : σ
  input : ι
  output : ο
  post : σ

def Machine.move (M : Machine σ ι ο) (s : σ) (i : ι) : Move σ ι ο :=
  ⟨s, i, (M.step i s).2, (M.step i s).1⟩

@[simp] theorem move_pre (M : Machine σ ι ο) (s : σ) (i : ι) : (M.move s i).pre = s := rfl

@[simp] theorem move_input (M : Machine σ ι ο) (s : σ) (i : ι) : (M.move s i).input = i := rfl

@[simp] theorem move_output (M : Machine σ ι ο) (s : σ) (i : ι) :
    (M.move s i).output = (M.step i s).2 := rfl

@[simp] theorem move_post (M : Machine σ ι ο) (s : σ) (i : ι) :
    (M.move s i).post = (M.step i s).1 := rfl

/-- The moves of a history are listed newest first. -/
inductive Machine.Run (M : Machine σ ι ο) (s : σ) : List (Move σ ι ο) → σ → Prop
  | nil : Machine.Run M s [] s
  | snoc {h : List (Move σ ι ο)} {t : σ} (r : Machine.Run M s h t) (i : ι) :
      Machine.Run M s (M.move t i :: h) (M.step i t).1

variable {M : Machine σ ι ο} {s t u : σ} {h : List (Move σ ι ο)} {m : Move σ ι ο}

theorem Machine.Run.last (r : M.Run s (m :: h) t) :
    M.Run s h m.pre ∧ m = M.move m.pre m.input ∧ t = m.post := by
  cases r with
  | snoc r i => exact ⟨r, rfl, rfl⟩

theorem Machine.Run.append {h' : List (Move σ ι ο)} (r : M.Run s h t) (r' : M.Run t h' u) :
    M.Run s (h' ++ h) u := by
  induction r' with
  | nil => exact r
  | snoc _ i ih => exact ih.snoc i

theorem Machine.Run.split {later : List (Move σ ι ο)} (r : M.Run s (later ++ m :: h) t) :
    M.Run s h m.pre ∧ m = M.move m.pre m.input ∧ M.Run m.post later t := by
  induction later generalizing t with
  | nil =>
    obtain ⟨hr, he, rfl⟩ := r.last
    exact ⟨hr, he, .nil⟩
  | cons x later ih =>
    obtain ⟨hr, he, rfl⟩ := r.last
    obtain ⟨hr', he', hl⟩ := ih hr
    refine ⟨hr', he', ?_⟩
    rw [he]
    exact hl.snoc x.input

theorem Machine.Run.cut {later : List (Move σ ι ο)} (r : M.Run s (later ++ h) t) :
    ∃ u, M.Run s h u ∧ M.Run u later t := by
  induction later generalizing t with
  | nil => exact ⟨t, r, .nil⟩
  | cons x later ih =>
    obtain ⟨hr, he, rfl⟩ := r.last
    obtain ⟨u, hu, hl⟩ := ih hr
    refine ⟨u, hu, ?_⟩
    rw [he]
    exact hl.snoc x.input

theorem Machine.Run.upto (r : M.Run s h t) (hm : m ∈ h) :
    ∃ earlier, M.Run s (m :: earlier) m.post ∧ ∀ x ∈ m :: earlier, x ∈ h := by
  obtain ⟨later, earlier, rfl⟩ := List.append_of_mem hm
  obtain ⟨hr, he, -⟩ := r.split
  refine ⟨earlier, ?_, fun x hx ↦ List.mem_append_right _ hx⟩
  rw [he]
  exact hr.snoc m.input

theorem Machine.Run.upto_after {later : List (Move σ ι ο)} {x : Move σ ι ο}
    (r : M.Run s (later ++ m :: h) t) (hx : x ∈ later) :
    ∃ later', M.Run s ((x :: later') ++ m :: h) x.post ∧ ∀ y ∈ x :: later', y ∈ later := by
  obtain ⟨newer, later', rfl⟩ := List.append_of_mem hx
  rw [List.append_assoc, List.cons_append] at r
  obtain ⟨hr, he, -⟩ := r.split
  refine ⟨later', ?_, fun y hy ↦ List.mem_append_right _ hy⟩
  rw [he]
  exact hr.snoc x.input

/-- What holds of the state at the start, and of the state and the history after every move if
the guard is met, holds after every run that meets the guard. -/
theorem Machine.Run.history_invariant {P : List (Move σ ι ο) → σ → Prop}
    {G : List (Move σ ι ο) → Prop} (hs : P [] s)
    (hstep : ∀ h t i, M.Run s h t → P h t → G (M.move t i :: h) →
      P (M.move t i :: h) (M.step i t).1)
    (htail : ∀ m h, G (m :: h) → G h)
    (r : M.Run s h t) (ha : G h) : P h t := by
  induction r with
  | nil => exact hs
  | snoc r i ih => exact hstep _ _ i r (ih (htail _ _ ha)) ha

/-- The same rule where the guard is about each move on its own. -/
theorem Machine.Run.moves_invariant {P : List (Move σ ι ο) → σ → Prop} {G : Move σ ι ο → Prop}
    (hs : P [] s)
    (hstep : ∀ h t i, P h t → G (M.move t i) → P (M.move t i :: h) (M.step i t).1)
    (r : M.Run s h t) (ha : ∀ m ∈ h, G m) : P h t :=
  r.history_invariant (G := fun h ↦ ∀ m ∈ h, G m) hs
    (fun h t i _ hp hg ↦ hstep h t i hp (hg _ List.mem_cons_self))
    (fun _ _ hg m hm ↦ hg m (List.mem_cons_of_mem _ hm)) ha

theorem Machine.Run.invariant {P : σ → Prop} {G : Move σ ι ο → Prop} (hs : P s)
    (hstep : ∀ t i, P t → G (M.move t i) → P (M.step i t).1)
    (r : M.Run s h t) (ha : ∀ m ∈ h, G m) : P t :=
  r.moves_invariant (P := fun _ t ↦ P t) hs (fun _ ↦ hstep) ha

theorem Machine.Run.keeps {P : σ → Prop} (r : M.Run s h t) (hs : P s)
    (hk : ∀ m ∈ h, m = M.move m.pre m.input → P m.pre → P m.post) : P t := by
  induction r with
  | nil => exact hs
  | snoc r i ih =>
    exact hk _ List.mem_cons_self rfl (ih fun m hm ↦ hk m (List.mem_cons_of_mem _ hm))

theorem Machine.Run.exists_break {P : σ → Prop} (r : M.Run s h t) (hs : P s) (ht : ¬ P t) :
    ∃ m ∈ h, m = M.move m.pre m.input ∧ P m.pre ∧ ¬ P m.post := by
  by_contra hno
  refine ht (r.keeps hs fun m hm he hp ↦ ?_)
  by_contra hpost
  exact hno ⟨m, hm, he, hp, hpost⟩

/-- A machine that answers like `M` wherever a run of `M` may lead has the same runs. -/
theorem Machine.Run.transfer {N : Machine σ ι ο} {P : σ → Prop} {G : Move σ ι ο → Prop} (hs : P s)
    (hkeep : ∀ t i, P t → G (M.move t i) → P (M.step i t).1)
    (hsame : ∀ t i, P t → G (M.move t i) → N.step i t = M.step i t)
    (r : M.Run s h t) (hg : ∀ m ∈ h, G m) : N.Run s h t := by
  induction r with
  | nil => exact .nil
  | @snoc h t r i ih =>
    have hg' : ∀ m ∈ h, G m := fun m hm ↦ hg m (List.mem_cons_of_mem _ hm)
    have hstep : N.step i t = M.step i t :=
      hsame t i (r.invariant hs hkeep hg') (hg _ List.mem_cons_self)
    have hmove : N.move t i = M.move t i := by rw [Machine.move, Machine.move, hstep]
    rw [← hmove, ← hstep]
    exact (ih hg').snoc i

/-- Feed a list of inputs, oldest first, and record the moves. -/
def Machine.exec (M : Machine σ ι ο) (s : σ) : List ι → List (Move σ ι ο) × σ
  | [] => ([], s)
  | i :: is =>
    let r := M.exec (M.step i s).1 is
    (r.1 ++ [M.move s i], r.2)

theorem Machine.run_exec (M : Machine σ ι ο) (s : σ) (is : List ι) :
    M.Run s (M.exec s is).1 (M.exec s is).2 := by
  induction is generalizing s with
  | nil => exact .nil
  | cons i is ih => exact (Machine.Run.nil.snoc i).append (ih _)

theorem Machine.map_input_exec (M : Machine σ ι ο) (s : σ) (is : List ι) :
    (M.exec s is).1.map Move.input = is.reverse := by
  induction is generalizing s with
  | nil => rfl
  | cons i is ih =>
    rw [Machine.exec, List.map_append, ih, List.reverse_cons]
    rfl

theorem Machine.exec_append (M : Machine σ ι ο) (s : σ) (is js : List ι) :
    M.exec s (is ++ js) = ((M.exec (M.exec s is).2 js).1 ++ (M.exec s is).1,
      (M.exec (M.exec s is).2 js).2) := by
  induction is generalizing s with
  | nil => simp [Machine.exec]
  | cons i is ih =>
    simp only [List.cons_append, Machine.exec, ih, List.append_assoc]

/-- Inputs that lead from one of a chain of properties to the next one. -/
theorem Machine.exec_chain {P : ℕ → σ → Prop} {G : Move σ ι ο → Prop} {i : ℕ → ι}
    (hstep : ∀ k s, P k s → P (k + 1) (M.step (i k) s).1 ∧ G (M.move s (i k))) (n : ℕ) {k : ℕ}
    (hs : P k s) :
    (M.exec s ((List.range' k n).map i)).1.length = n ∧
      ∀ m ∈ (M.exec s ((List.range' k n).map i)).1, G m := by
  induction n generalizing s k with
  | zero => exact ⟨rfl, List.forall_mem_nil _⟩
  | succ n ih =>
    obtain ⟨hnext, hg⟩ := hstep k s hs
    obtain ⟨hlen, hall⟩ := ih hnext
    rw [List.range'_succ, List.map_cons, Machine.exec]
    refine ⟨by simp [hlen], fun m hm ↦ ?_⟩
    rcases List.mem_append.mp hm with hm | hm
    · exact hall m hm
    · rw [List.mem_singleton.mp hm]
      exact hg

/-- Some entry satisfies `Q` and every newer entry satisfies `P`. -/
def Since (P Q : α → Prop) : List α → Prop
  | [] => False
  | x :: h => Q x ∨ P x ∧ Since P Q h

theorem since_iff {P Q : α → Prop} {h : List α} :
    Since P Q h ↔ ∃ later x earlier, h = later ++ x :: earlier ∧ Q x ∧ ∀ y ∈ later, P y := by
  induction h with
  | nil => simp [Since]
  | cons a h ih =>
    constructor
    · intro hs
      rcases hs with hq | ⟨hp, hs⟩
      · exact ⟨[], a, h, rfl, hq, by simp⟩
      · obtain ⟨later, x, earlier, rfl, hq, hl⟩ := ih.mp hs
        exact ⟨a :: later, x, earlier, rfl, hq, by simpa [hp] using hl⟩
    · intro hx
      obtain ⟨later, x, earlier, he, hq, hl⟩ := hx
      cases later with
      | nil =>
        cases he
        exact .inl hq
      | cons y later =>
        cases he
        simp only [List.mem_cons, forall_eq_or_imp] at hl
        exact .inr ⟨hl.1, ih.mpr ⟨later, x, earlier, rfl, hq, hl.2⟩⟩

theorem Since.mono {P P' Q Q' : α → Prop} {h : List α} (hs : Since P Q h)
    (hP : ∀ x ∈ h, P x → P' x) (hQ : ∀ x ∈ h, Q x → Q' x) : Since P' Q' h := by
  induction h with
  | nil => exact hs
  | cons x h ih =>
    rcases hs with hq | ⟨hp, hs⟩
    · exact .inl (hQ x List.mem_cons_self hq)
    · exact .inr ⟨hP x List.mem_cons_self hp, ih hs
        (fun y hy ↦ hP y (List.mem_cons_of_mem _ hy)) fun y hy ↦ hQ y (List.mem_cons_of_mem _ hy)⟩

/-- If an entry of the newer part breaks `P`, the witness of `Q` is newer than it. -/
theorem Since.mem_of_break {P Q : α → Prop} {later earlier : List α} {y : α}
    (hs : Since P Q (later ++ earlier)) (hy : y ∈ later) (hP : ¬ P y) : ∃ x ∈ later, Q x := by
  induction later with
  | nil => simp at hy
  | cons a later ih =>
    rcases hs with hq | ⟨hp, hs⟩
    · exact ⟨a, List.mem_cons_self, hq⟩
    · rcases List.mem_cons.mp hy with rfl | hy
      · exact absurd hp hP
      · obtain ⟨x, hx, hq⟩ := ih hs hy
        exact ⟨x, List.mem_cons_of_mem _ hx, hq⟩

end Mealy
