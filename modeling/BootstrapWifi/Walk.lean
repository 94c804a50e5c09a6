import BootstrapWifi.Mealy
import Mathlib.Data.List.Chain

namespace Mealy

variable {σ ι ο α : Type} [DecidableEq α] {M : Machine σ ι ο} {f : σ → α} {R : α → α → Prop}
  {s t : σ} {m : Move σ ι ο} {h h' : List (Move σ ι ο)}

/-- The values of `f` along a history, newest first and without repetitions. -/
def stages (f : σ → α) (s : σ) : List (Move σ ι ο) → List α
  | [] => [f s]
  | m :: h => if f m.post = f m.pre then stages f s h else f m.post :: stages f s h

/-- A walk in the graph of `R`; the last vertex comes first. -/
def Walk (R : α → α → Prop) (w : List α) : Prop := w.IsChain fun later earlier ↦ R earlier later

theorem stages_cons_of_eq (he : f m.post = f m.pre) : stages f s (m :: h) = stages f s h :=
  if_pos he

theorem stages_cons_of_ne (hne : f m.post ≠ f m.pre) :
    stages f s (m :: h) = f m.post :: stages f s h := if_neg hne

theorem stages_ne_nil (f : σ → α) (s : σ) (h : List (Move σ ι ο)) : stages f s h ≠ [] := by
  induction h with
  | nil => exact List.cons_ne_nil _ _
  | cons m h ih =>
    unfold stages
    split
    · exact ih
    · exact List.cons_ne_nil _ _

theorem stages_append (f : σ → α) (s t : σ) (h h' : List (Move σ ι ο)) :
    stages f s (h' ++ h) = (stages f t h').dropLast ++ stages f s h := by
  induction h' with
  | nil => rfl
  | cons m h' ih =>
    rw [List.cons_append]
    by_cases he : f m.post = f m.pre
    · rw [stages_cons_of_eq he, stages_cons_of_eq he, ih]
    · rw [stages_cons_of_ne he, stages_cons_of_ne he, ih,
        List.dropLast_cons_of_ne_nil (stages_ne_nil f t h'), List.cons_append]

theorem Machine.Run.stages_eq_cons (r : M.Run s h t) : ∃ w, stages f s h = f t :: w := by
  induction r with
  | nil => exact ⟨[], rfl⟩
  | @snoc h t r i ih =>
    by_cases he : f (M.move t i).post = f (M.move t i).pre
    · obtain ⟨w, hw⟩ := ih
      refine ⟨w, ?_⟩
      rw [stages_cons_of_eq he, hw]
      exact congrArg (· :: w) he.symm
    · exact ⟨stages f s h, stages_cons_of_ne he⟩

/-- If every move follows an edge or leaves `f` alone, then the values of `f` are a walk that
begins with the value at the start. -/
theorem Machine.Run.walk {P : σ → Prop} {G : Move σ ι ο → Prop} (hs : P s)
    (hkeep : ∀ t i, P t → G (M.move t i) → P (M.step i t).1)
    (hedge : ∀ t i, P t → G (M.move t i) → f (M.step i t).1 ≠ f t → R (f t) (f (M.step i t).1))
    (r : M.Run s h t) (hg : ∀ m ∈ h, G m) :
    Walk R (stages f s h) ∧ (stages f s h).getLast? = some (f s) := by
  induction r with
  | nil => exact ⟨List.isChain_singleton _, rfl⟩
  | @snoc h t r i ih =>
    have hg' : ∀ m ∈ h, G m := fun m hm ↦ hg m (List.mem_cons_of_mem _ hm)
    obtain ⟨hwalk, hlast⟩ := ih hg'
    by_cases he : f (M.move t i).post = f (M.move t i).pre
    · rw [stages_cons_of_eq he]
      exact ⟨hwalk, hlast⟩
    · obtain ⟨w, hw⟩ := r.stages_eq_cons (f := f)
      have hr : R (f t) (f (M.step i t).1) :=
        hedge t i (r.invariant hs hkeep hg') (hg _ List.mem_cons_self) he
      rw [stages_cons_of_ne he, hw]
      rw [hw] at hwalk hlast
      exact ⟨hwalk.cons_cons hr, by rw [List.getLast?_cons_cons, hlast]⟩

/-- If every edge can be followed from wherever it starts, then every walk is made by a run. -/
theorem Machine.exists_run_of_walk {K : List (Move σ ι ο) → σ → Prop} (hs : K [] s)
    (hstep : ∀ h t b, M.Run s h t → K h t → R (f t) b →
      ∃ h' u, M.Run t h' u ∧ K (h' ++ h) u ∧ stages f t h' = [b, f t])
    {w : List α} (hw : Walk R (w ++ [f s])) :
    ∃ h t, M.Run s h t ∧ K h t ∧ stages f s h = w ++ [f s] := by
  induction w with
  | nil => exact ⟨[], s, .nil, hs, rfl⟩
  | cons b w ih =>
    obtain ⟨h, t, r, hk, hst⟩ := ih (List.IsChain.of_cons hw)
    obtain ⟨w', hw'⟩ := r.stages_eq_cons (f := f)
    have hedge : R (f t) b := by
      unfold Walk at hw
      rw [List.cons_append, ← hst, hw', List.isChain_cons_cons] at hw
      exact hw.1
    obtain ⟨h', u, r', hk', hst'⟩ := hstep h t b r hk hedge
    refine ⟨h' ++ h, u, r.append r', hk', ?_⟩
    rw [stages_append f s t, hst', hst]
    rfl

end Mealy
