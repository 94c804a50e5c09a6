import BootstrapWifi.Mealy
import Mathlib.Algebra.Order.Group.Nat

namespace Mealy

variable {σ ι ο : Type} {M : Machine σ ι ο} {s t : σ} {h : List (Move σ ι ο)}

/-- A rank `f` that no move raises and every tick lowers, until a move with `Q` comes, lets at
most `f s` ticks pass before it. -/
theorem Machine.Run.reaches_of_rank {P : σ → Prop} {f : σ → ℕ} {T : Move σ ι ο → Bool}
    {Q : Move σ ι ο → Prop} (r : M.Run s h t) (hs : P s)
    (hstep : ∀ m ∈ h, m = M.move m.pre m.input → P m.pre →
      Q m ∨ P m.post ∧ f m.post + (if T m then 1 else 0) ≤ f m.pre)
    (hcount : f s < h.countP T) :
    ∃ later m earlier, h = later ++ m :: earlier ∧ P m.pre ∧ Q m ∧
      earlier.countP T ≤ f s := by
  suffices hdescent : (∃ later m earlier, h = later ++ m :: earlier ∧ P m.pre ∧ Q m ∧
      earlier.countP T ≤ f s) ∨ P t ∧ f t + h.countP T ≤ f s by
    rcases hdescent with hfound | ⟨-, hle⟩
    · exact hfound
    · exact absurd ((Nat.le_add_left _ _).trans hle) (not_le.mpr hcount)
  clear hcount
  induction r with
  | nil => exact .inr ⟨hs, le_rfl⟩
  | @snoc h t r i ih =>
    rcases ih fun m hm ↦ hstep m (List.mem_cons_of_mem _ hm) with hfound | ⟨ht, hle⟩
    · obtain ⟨later, m, earlier, rfl, hm⟩ := hfound
      exact .inl ⟨M.move t i :: later, m, earlier, rfl, hm⟩
    · rcases hstep _ List.mem_cons_self rfl ht with hq | ⟨hpost, hdrop⟩
      · exact .inl ⟨[], M.move t i, h, rfl, ht, hq, (Nat.le_add_left _ _).trans hle⟩
      · refine .inr ⟨hpost, ?_⟩
        rw [move_post, move_pre] at hdrop
        rw [List.countP_cons]
        omega

end Mealy
