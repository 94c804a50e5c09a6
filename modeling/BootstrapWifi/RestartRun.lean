import BootstrapWifi.LinkMove

namespace BootstrapWifi

open Mealy

variable {o : Options} {polls : List (Time × ConnectState)} {m : LibraryMove}

/-- A device with stored data is switched on at time 1, and its connection is looked at. -/
def restart (o : Options) (polls : List (Time × ConnectState)) : List Event :=
  ⟨1, .setup o [97, 0, 98] []⟩ :: polls.map fun p ↦ ⟨p.1, .periodic p.2⟩

def restartHistory (o : Options) (polls : List (Time × ConnectState)) : List LibraryMove :=
  ((library lp64).exec .off (restart o polls)).1

def restarted (o : Options) (polls : List (Time × ConnectState)) : Device :=
  ((library lp64).exec .off (restart o polls)).2

theorem run_restart (o : Options) (polls : List (Time × ConnectState)) :
    (library lp64).Run .off (restartHistory o polls) (restarted o polls) :=
  (library lp64).run_exec .off _

theorem map_input_restartHistory (o : Options) (polls : List (Time × ConnectState)) :
    (restartHistory o polls).map Move.input = (restart o polls).reverse :=
  (library lp64).map_input_exec .off _

theorem restart_contained (ho : o.Ready) : ∀ m ∈ restartHistory o polls, Contained lp64 m := by
  intro m hm
  have hinput : m.input ∈ (restartHistory o polls).map Move.input := List.mem_map_of_mem hm
  rw [map_input_restartHistory, List.mem_reverse] at hinput
  rcases List.mem_cons.mp hinput with he | he
  · refine ⟨fun o' data key hc ↦ ?_, bindFits_of_call fun data random hc ↦ ?_⟩
    · rw [he] at hc
      cases hc
      exact .inl ho.1
    · rw [he] at hc
      cases hc
  · obtain ⟨p, -, hp⟩ := List.mem_map.mp he
    refine ⟨fun o' data key hc ↦ ?_, bindFits_of_call fun data random hc ↦ ?_⟩
    · rw [← hp] at hc
      cases hc
    · rw [← hp] at hc
      cases hc

theorem map_now_restartHistory (o : Options) (polls : List (Time × ConnectState)) :
    (restartHistory o polls).map (fun m ↦ m.input.now) = (1 :: polls.map Prod.fst).reverse := by
  have hinput := congrArg (List.map Event.now) (map_input_restartHistory o polls)
  rw [List.map_map] at hinput
  rw [← Function.comp_def, hinput]
  simp [restart, Function.comp_def]

theorem restart_clockMono (ht : (1 :: polls.map Prod.fst).Pairwise (· ≤ ·)) :
    ClockMono (restartHistory o polls) := by
  unfold ClockMono
  rw [← List.pairwise_map (f := fun m : LibraryMove ↦ m.input.now) (R := fun a b ↦ b ≤ a),
    map_now_restartHistory, List.pairwise_reverse]
  exact ht

theorem restartHistory_append (o : Options) (polls more : List (Time × ConnectState)) :
    restartHistory o (polls ++ more) =
      ((library lp64).exec (restarted o polls) (more.map fun p ↦ ⟨p.1, .periodic p.2⟩)).1 ++
        restartHistory o polls := by
  unfold restartHistory restarted restart
  rw [List.map_append, ← List.cons_append, Machine.exec_append]

end BootstrapWifi
