import BootstrapWifi.Mealy

namespace Mealy

variable {α : Type} {P P' Q : α → Prop} {x : α} {h later earlier : List α}

/-- Some entry satisfies `Q`, and the newest of them satisfies `P`. -/
def Newest (Q P : α → Prop) : List α → Prop :=
  Since (fun x ↦ ¬ Q x) (fun x ↦ Q x ∧ P x)

theorem newest_cons_of (hq : Q x) : Newest Q P (x :: h) ↔ P x :=
  ⟨fun hn ↦ (hn.resolve_right fun h ↦ h.1 hq).2, fun hp ↦ .inl ⟨hq, hp⟩⟩

theorem newest_cons_of_not (hq : ¬ Q x) : Newest Q P (x :: h) ↔ Newest Q P h :=
  ⟨fun hn ↦ (hn.resolve_left fun h ↦ hq h.1).2, fun hn ↦ .inr ⟨hq, hn⟩⟩

theorem newest_iff : Newest Q P h ↔
    ∃ later x earlier, h = later ++ x :: earlier ∧ (Q x ∧ P x) ∧ ∀ y ∈ later, ¬ Q y :=
  since_iff

theorem Newest.mono (hn : Newest Q P h) (hp : ∀ x ∈ h, Q x → P x → P' x) : Newest Q P' h :=
  Since.mono hn (fun _ _ hq ↦ hq) fun x hx hqp ↦ ⟨hqp.1, hp x hx hqp.1 hqp.2⟩

theorem newest_append (hl : ∀ y ∈ later, ¬ Q y) :
    Newest Q P (later ++ h) ↔ Newest Q P h := by
  induction later with
  | nil => exact Iff.rfl
  | cons y later ih =>
    rw [List.cons_append, newest_cons_of_not (hl y List.mem_cons_self)]
    exact ih fun z hz ↦ hl z (List.mem_cons_of_mem _ hz)

/-- A known newest entry is the one the statement is about. -/
theorem Newest.here (hn : Newest Q P (later ++ x :: earlier)) (hl : ∀ y ∈ later, ¬ Q y) (hq : Q x) :
    P x :=
  (newest_cons_of hq).mp ((newest_append hl).mp hn)

theorem Newest.and (hn : Newest Q P h) (hn' : Newest Q P' h) :
    Newest Q (fun x ↦ P x ∧ P' x) h := by
  obtain ⟨later, x, earlier, rfl, ⟨hq, hp⟩, hl⟩ := newest_iff.mp hn
  exact newest_iff.mpr ⟨later, x, earlier, rfl, ⟨hq, hp, hn'.here hl hq⟩, hl⟩

theorem Newest.exists_mem (hn : Newest Q P h) : ∃ x ∈ h, Q x ∧ P x := by
  obtain ⟨later, x, earlier, rfl, hx, -⟩ := newest_iff.mp hn
  exact ⟨x, List.mem_append_right _ List.mem_cons_self, hx⟩

/-- How many entries newer than the newest one with `q` satisfy `p`. -/
def countSince (q p : α → Bool) (h : List α) : ℕ := (h.takeWhile fun x ↦ !q x).countP p

theorem countSince_cons_of {q p : α → Bool} (hq : q x = true) : countSince q p (x :: h) = 0 := by
  rw [countSince, List.takeWhile_cons_of_neg (by simp [hq]), List.countP_nil]

theorem countSince_cons_of_not {q p : α → Bool} (hq : q x = false) :
    countSince q p (x :: h) = countSince q p h + if p x then 1 else 0 := by
  rw [countSince, List.takeWhile_cons_of_pos (by simp [hq]), List.countP_cons]
  rfl

end Mealy
