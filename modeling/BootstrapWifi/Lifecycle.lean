import BootstrapWifi.Crossing

namespace BootstrapWifi

open Mealy

variable {L : Layout} {now : Time}

def switchedOn (L : Layout) (o : Options) (data key : List UInt8) (now : Time) : Device :=
  ((library L).step ⟨now, .setup o data key⟩ .off).1

section SwitchedOn

variable {o : Options} {data key : List UInt8}

theorem Options.Timed.bootstrapped (ho : o.Timed) : o.bootstrapped.Timed := by
  refine ⟨ho.ready.bootstrapped, ?_, ?_⟩
  all_goals unfold Options.bootstrapped; split
  · exact ho.connecting
  · exact ho.connecting
  · exact ho.nonce
  · exact ho.nonce

theorem switchedOn_stage (ho : o.Ready) : (switchedOn L o data key now).stage =
    if (prvAssignData data .zero).ssid.isSome then .restarted else .fresh := by
  have heff := bstSetup_effect L now o data key
  have hssid : (loaded L o data key).ssid = (prvAssignData data .zero).ssid := loaded_ssid
  change (bstSetup L now o data key).1.stage = _
  generalize bstSetup L now o data key = r at heff
  cases heff with
  | bootstrapped hs =>
    rw [← hssid, if_pos hs]
    exact congrArg (fun ssid ↦ Stage.mk .connectingToDest ssid false) hs
  | waiting hn =>
    rw [← hssid, hn]
    exact congrArg (fun ssid : Option ℕ ↦ Stage.mk .connectingToBootstrap ssid.isSome false) hn
  | idle _ hb =>
    have hs := ho.1
    rw [hb] at hs
    cases hs

theorem dataWith_ssid (ssid : Bool) :
    (prvAssignData (dataWith ssid) .zero).ssid.isSome = ssid := by
  rw [prvAssignData_ssid, assignedStorage_head]
  cases ssid <;> rfl

theorem switchedOn_running (ho : o.Ready) : Running (switchedOn L o data key now).inst where
  requests := bstSetup_requestsWait ho
  mode := by
    change (switchedOn L o data key now).stage.mode ≠ _
    rw [switchedOn_stage ho]
    split <;> exact nofun

theorem switchedOn_steered (ho : o.Timed) (h₀ : 0 ≤ now) :
    Steered now (switchedOn L o data key now).inst := by
  have heff := bstSetup_effect L now o data key
  change Steered now (bstSetup L now o data key).1
  have hopt : (loaded L o data key).options = o := loaded_options
  generalize bstSetup L now o data key = r at heff
  cases heff with
  | bootstrapped => exact ⟨ho.bootstrapped, h₀, lt_nextDeadline ho.bootstrapped now, rfl, rfl, rfl⟩
  | waiting =>
    have ho' : (loaded L o data key).options.Timed := by rwa [hopt]
    exact ⟨ho', h₀, lt_nextDeadline ho' now, rfl, rfl, rfl⟩
  | idle _ hb =>
    have hs := ho.ready.1
    rw [hb] at hs
    cases hs

end SwitchedOn

/-- The stages that some device with these options goes through after it has been switched on. -/
def Lifecycle (L : Layout) (o : Options) (w : List Stage) : Prop :=
  ∃ now data key h d, (library L).Run (switchedOn L o data key now) h d ∧ ClockMono h ∧
    (∀ m ∈ h, now ≤ m.input.now ∧ Undisturbed L m) ∧
    stages Device.stage (switchedOn L o data key now) h = w

/-- A history in which the clock has not yet passed `now`. -/
structure Course (L : Layout) (start : Time) (h : List LibraryMove) (d : Device) (now : Time) :
    Prop where
  mono : ClockMono h
  within : ∀ m ∈ h, start ≤ m.input.now ∧ m.input.now ≤ now
  undisturbed : ∀ m ∈ h, Undisturbed L m
  start_le : start ≤ now
  steered : Steered now d.inst

theorem Course.append {start t : Time} {h h' : List LibraryMove} {u : Device}
    (hc : Course L start h d now) (ht : now ≤ t)
    (hall : ∀ m ∈ h', m.input.now = t ∧ Undisturbed L m) (hs : Steered t u.inst) :
    Course L start (h' ++ h) u t where
  mono := by
    refine List.pairwise_append.mpr ⟨?_, hc.mono, fun m hm x hx ↦ ?_⟩
    · exact List.pairwise_of_forall_mem_list fun m hm x hx ↦
        ((hall x hx).1.trans (hall m hm).1.symm).le
    · rw [(hall m hm).1]
      exact (hc.within x hx).2.trans ht
  within := by
    intro m hm
    rcases List.mem_append.mp hm with hm | hm
    · rw [(hall m hm).1]
      exact ⟨hc.start_le.trans ht, le_rfl⟩
    · exact ⟨(hc.within m hm).1, (hc.within m hm).2.trans ht⟩
  undisturbed := by
    intro m hm
    rcases List.mem_append.mp hm with hm | hm
    · exact (hall m hm).2
    · exact hc.undisturbed m hm
  start_le := hc.start_le.trans ht
  steered := hs

/-- What a device goes through are exactly the walks in the graph of its stages that begin with a
first start or with a restart: no other change of stage ever happens, and whatever path the
graph allows can be taken, at any length and even by a clock that never runs back. -/
theorem lifecycle_iff {o : Options} (ho : o.Timed) {w : List Stage} : Lifecycle L o w ↔
    Walk StageEdge w ∧ (w.getLast? = some .fresh ∨ w.getLast? = some .restarted) := by
  constructor
  · rintro ⟨now, data, key, h, d, r, -, hall, rfl⟩
    have hwalk := r.walk (f := Device.stage) (R := StageEdge) (P := fun d ↦ Running d.inst)
      (G := Undisturbed L) (switchedOn_running ho.ready) (fun _ _ hd hm ↦ hd.step hm)
      (fun _ _ hd hm hne ↦ (step_stage hd hm).resolve_left hne) fun m hm ↦ (hall m hm).2
    refine ⟨hwalk.1, ?_⟩
    rw [hwalk.2, switchedOn_stage ho.ready]
    split
    · exact .inr rfl
    · exact .inl rfl
  · rintro ⟨hwalk, hlast⟩
    have hstart : ∃ data, w.getLast? = some (switchedOn L o data [] 0).stage := by
      rcases hlast with hl | hl
      · refine ⟨dataWith false, ?_⟩
        rw [hl, switchedOn_stage ho.ready, dataWith_ssid, if_neg Bool.false_ne_true]
      · refine ⟨dataWith true, ?_⟩
        rw [hl, switchedOn_stage ho.ready, dataWith_ssid, if_pos rfl]
    obtain ⟨data, hlast⟩ := hstart
    obtain ⟨w, rfl⟩ := List.getLast?_eq_some_iff.mp hlast
    have hbegin : Course L 0 [] (switchedOn L o data [] 0) 0 :=
      ⟨.nil, List.forall_mem_nil _, List.forall_mem_nil _, le_rfl, switchedOn_steered ho le_rfl⟩
    have hstep : ∀ h d p, (library L).Run (switchedOn L o data [] 0) h d →
        (∃ now, Course L 0 h d now) → StageEdge d.stage p →
        ∃ h' u, (library L).Run d h' u ∧ (∃ now, Course L 0 (h' ++ h) u now) ∧
          stages Device.stage d h' = [p, d.stage] := by
      intro h d p r hk hedge
      obtain ⟨now, hc⟩ := hk
      obtain ⟨t, ht, h', u, r', hall, hs, hst⟩ := edge_crossed (L := L) hc.steered hedge
      exact ⟨h', u, r', ⟨t, hc.append ht hall hs⟩, hst⟩
    obtain ⟨h, d, r, ⟨now, hc⟩, hst⟩ :=
      Machine.exists_run_of_walk (s := switchedOn L o data [] 0) ⟨0, hbegin⟩ hstep hwalk
    exact ⟨0, data, [], h, d, r, hc.mono,
      fun m hm ↦ ⟨(hc.within m hm).1, hc.undisturbed m hm⟩, hst⟩

theorem sampleOptions_timed : sampleOptions.Timed := ⟨sampleOptions_ready, by decide, by decide⟩

/-- A device is told the wrong network, falls back, and is told another one. -/
theorem sample_lifecycle : Lifecycle lp64 sampleOptions
    [⟨.destinationConnected, true, false⟩, ⟨.connectingToDest, true, false⟩,
      ⟨.waitingForData, true, true⟩, ⟨.waitingForData, true, false⟩,
      ⟨.connectingToBootstrap, true, false⟩, ⟨.connectingToDest, true, false⟩,
      ⟨.waitingForData, true, true⟩, ⟨.waitingForData, false, false⟩, .fresh] :=
  (lifecycle_iff sampleOptions_timed).mpr
    ⟨.cons_cons (.associate true) <| .cons_cons (.execute true) <| .cons_cons (.accept true true) <|
      .cons_cons (.online true) <| .cons_cons (.fallBack true rfl) <| .cons_cons (.execute true) <|
      .cons_cons (.accept false true) <| .cons_cons (.online false) <| .singleton _, .inl rfl⟩

end BootstrapWifi
