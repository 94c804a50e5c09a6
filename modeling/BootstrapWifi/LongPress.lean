import BootstrapWifi.Board
import BootstrapWifi.InputFrame

namespace BootstrapWifi

open Mealy

variable {L : Layout} {o : Options} {x : Turn} {b : Board} {h : List BoardMove} {m : BoardMove}
  {i : BoardInput} {flash : Flash} {d : Device} {e : Event} {conn : ConnectState} {events : List Event}

/-- Between two calls of `loop` no factory reset waits for `bst_periodic`. -/
structure Settled (d : Device) : Prop where
  ready : d.inst.options.Ready ∨ d.inst.state.state = .uninitialized
  noReset : d.inst.flags.requestFactoryReset = false

/-- The platform is told to empty both files. -/
def ErasesStore (m : LibraryMove) : Prop :=
  ∃ rest, m.output = .storeBootstrapData [] :: .storeCryptoSecret [] :: rest

theorem PeriodicEffect.not_erases {now : Time} {s : Instance} {r : Instance × List Action}
    (heff : PeriodicEffect L now s r) (hf : s.flags.requestFactoryReset = false)
    (rest : List Action) : r.2 ≠ .storeBootstrapData [] :: .storeCryptoSecret [] :: rest := by
  intro hout
  cases heff with
  | off => cases hout
  | factoryReset _ h =>
    rw [hf] at h
    cases h
  | bind => simp [serveBind] at hout
  | wifiList => cases hout
  | setWifi => simp [serveSetWifi] at hout
  | poll _ _ _ _ _ hp =>
    exact hp.not_stores (.storeBootstrapData []) (by rw [hout]; exact List.mem_cons_self) trivial

theorem networkInput_ignored {s : Instance} (hm : s.state.state ≠ .waitingForData) (now : Time)
    (random : UInt64) (data : List UInt8) : (bstNetworkInput L now random data s).val = s := by
  unfold bstNetworkInput
  rw [if_pos (.inl hm)]
  rfl

theorem Settled.step (hd : Settled d) (hreset : e.call ≠ .factoryReset)
    (hsetup : ¬ e.call.IsSetup) (hfit : BindFits L ((library L).move d e)) :
    Settled ((library L).step e d).1 ∧ ¬ ErasesStore ((library L).move d e) := by
  obtain ⟨now, call⟩ := e
  cases call with
  | setup => exact absurd trivial hsetup
  | periodic conn =>
    have heff := bstPeriodic_effect L now conn d.inst
    refine ⟨⟨?_, ?_⟩, fun herase ↦ ?_⟩
    · rw [step_periodic L rfl, Device.after_inst]
      by_cases ho : d.inst.options.Ready
      · rw [heff.options]
        exact .inl ho
      · rw [bstPeriodic_off L conn ho]
        exact hd.ready
    · rw [step_periodic L rfl, Device.after_inst]
      exact heff.requestFactoryReset hd.noReset
    · obtain ⟨rest, hout⟩ := herase
      rw [move_output, step_periodic L rfl] at hout
      exact heff.not_erases hd.noReset rest hout
  | networkInput data random =>
    have heff := networkInput_effect L now random data d.inst
    rw [step_networkInput L rfl]
    refine ⟨⟨?_, ?_⟩, fun herase ↦ ?_⟩
    · rw [Device.after_inst]
      rcases hd.ready with ho | hm
      · rw [heff.options]
        exact .inl ho
      · rw [networkInput_ignored (by rw [hm]; decide)]
        exact .inr hm
    · rw [Device.after_inst, heff.requestFactoryReset fun pkt ↦ hfit data random pkt rfl]
      exact hd.noReset
    · obtain ⟨rest, hout⟩ := herase
      rw [move_output, step_networkInput L rfl] at hout
      cases hout
  | wifiNetworkList list =>
    refine ⟨⟨hd.ready, hd.noReset⟩, fun herase ↦ ?_⟩
    obtain ⟨rest, hout⟩ := herase
    have hlist : bstWifiNetworkList L list d.inst = _ := hout
    have hstore : Action.storeBootstrapData [] ∈ bstWifiNetworkList L list d.inst := by
      rw [hlist]
      exact List.mem_cons_self
    exact wifiNetworkList_only (P := fun a ↦ ¬ a.Stores) (fun _ ↦ id) _ hstore trivial
  | factoryReset => exact absurd rfl hreset
  | _ => exact ⟨⟨hd.ready, hd.noReset⟩, fun ⟨_, hout⟩ ↦ by cases hout⟩

theorem Settled.exec (hd : Settled d)
    (hcalls : ∀ e ∈ events, e.call ≠ .factoryReset ∧ ¬ e.call.IsSetup)
    (hfit : ∀ y ∈ ((library L).exec d events).1, BindFits L y) :
    Settled ((library L).exec d events).2 ∧
      ∀ y ∈ ((library L).exec d events).1, ¬ ErasesStore y := by
  induction events generalizing d with
  | nil => exact ⟨hd, List.forall_mem_nil _⟩
  | cons e events ih =>
    obtain ⟨he, hcalls⟩ := List.forall_mem_cons.mp hcalls
    rw [Machine.exec, List.forall_mem_append] at hfit
    obtain ⟨hpost, hkeeps⟩ := hd.step he.1 he.2 (hfit.2 _ (List.mem_singleton_self _))
    obtain ⟨hlast, hnone⟩ := ih hpost hcalls hfit.1
    exact ⟨hlast, List.forall_mem_append.mpr ⟨hnone, List.forall_mem_singleton.mpr hkeeps⟩⟩

theorem reset_served (ho : d.inst.options.Ready) (hf : d.inst.flags.requestFactoryReset = true)
    (hc : e.call = .periodic conn) :
    Settled ((library L).step e d).1 ∧ ErasesStore ((library L).move d e) ∧
      ((library L).step e d).1.flash = ⟨[], []⟩ := by
  have hstep : (library L).step e d = d.after (serveFactoryReset L e.now d.inst) := by
    rw [step_periodic L hc, bstPeriodic_factoryReset L conn ho hf]
  have hopt : (loaded L d.inst.options [] []).options = d.inst.options := loaded_options
  unfold ErasesStore
  rw [move_output, hstep, serveFactoryReset_eq L ho]
  refine ⟨⟨.inl ?_, rfl⟩, ⟨_, rfl⟩, rfl⟩
  change (loaded L d.inst.options [] []).options.Ready
  rwa [hopt]

/-- In a mode that takes no packets the library only notes the request until `bst_periodic`. -/
theorem exec_reset (hm : d.inst.state.state ≠ .waitingForData) (now : Time)
    (packet : Option (List UInt8)) (random : UInt64) :
    ((library L).exec d ((.factoryReset :: packet.toList.map
      fun data ↦ .networkInput data random).map fun call ↦ ⟨now, call⟩)).2 =
      { d with inst := bstFactoryReset d.inst } := by
  cases packet with
  | none => rfl
  | some data =>
    have hignored : (bstNetworkInput L now random data (bstFactoryReset d.inst)).val =
        bstFactoryReset d.inst :=
      networkInput_ignored (s := bstFactoryReset d.inst) hm now random data
    change { d with inst := (bstNetworkInput L now random data (bstFactoryReset d.inst)).val } = _
    rw [hignored]

def Erases (m : BoardMove) : Prop := ∃ y ∈ m.output.moves, ErasesStore y

/-- One call of `loop` serves the reset that it asks for itself, and no other. -/
theorem Settled.loop (hd : Settled b.device)
    (hfit : ∀ y ∈ ((board L o flash).move b (.loop x)).output.moves, BindFits L y) :
    Settled ((board L o flash).step (.loop x) b).1.device ∧
      (Erases ((board L o flash).move b (.loop x)) ↔ .factoryReset ∈ (x.press b).2) ∧
      (.factoryReset ∈ (x.press b).2 →
        ((board L o flash).step (.loop x) b).1.device.flash = ⟨[], []⟩) := by
  obtain ⟨hperiodic, hbefore⟩ := List.forall_mem_cons.mp hfit
  by_cases hc : .factoryReset ∈ (x.press b).2
  · obtain ⟨hcalls, hmode⟩ := press_reset hc
    have hpre : (x.before L b).2 = { b.device with inst := bstFactoryReset b.device.inst } := by
      unfold Turn.before
      rw [hcalls]
      exact exec_reset (by rw [hmode]; decide) _ x.packet (bstGetRandom x.rand)
    have hready : (x.before L b).2.inst.options.Ready := by
      rw [hpre]
      refine hd.ready.resolve_right fun hoff ↦ ?_
      rw [hmode] at hoff
      cases hoff
    obtain ⟨hs, herase, hflash⟩ := reset_served (L := L)
      (e := ⟨systemTimeMs x.periodicMicros, .periodic _⟩) hready (by rw [hpre]; rfl) rfl
    exact ⟨hs, iff_of_true ⟨_, List.mem_cons_self, herase⟩ hc, fun _ ↦ hflash⟩
  · obtain ⟨hs, hnone⟩ := hd.exec (quiet_events hc) hbefore
    obtain ⟨hpost, hlast⟩ := hs.step (e := ⟨systemTimeMs x.periodicMicros, .periodic _⟩) nofun id
      hperiodic
    refine ⟨hpost, iff_of_false (fun herase ↦ ?_) hc, fun h ↦ absurd h hc⟩
    obtain ⟨y, hy, he⟩ := herase
    rcases List.mem_cons.mp hy with rfl | hy
    · exact hlast he
    · exact hnone y hy he

theorem settled_setup (ho : o.Ready) (now : Time) (data key : List UInt8) (d : Device) :
    Settled ((library L).step ⟨now, .setup o data key⟩ d).1 := by
  have hopt := bstSetup_options L now o data key
  refine ⟨.inl ?_, ?_⟩
  · change (bstSetup L now o data key).1.options.Ready
    rw [hopt]
    split
    · exact ho.bootstrapped
    · exact ho
  · change (bstSetup L now o data key).1.flags.requestFactoryReset = false
    rw [(bstSetup_cleared L now data key (.inl ho.1)).1]
    rfl

theorem Settled.next (hd : Settled b.device) (ho : o.Ready)
    (hfit : ∀ y ∈ ((board L o flash).move b i).output.moves, BindFits L y) :
    Settled ((board L o flash).step i b).1.device := by
  cases i with
  | setup micros => exact settled_setup ho _ _ _ _
  | loop x => exact (hd.loop hfit).1
  | scanDone ok result =>
    change Settled (boardStep L o (.scanDone ok result) b).1.device
    unfold boardStep
    dsimp only
    split
    · exact hd
    · exact (hd.step (e := ⟨0, .wifiNetworkList _⟩) nofun id (bindFits_of_call nofun)).1

theorem settled_of_run (ho : o.Ready) (r : (board L o flash).Run (board L o flash).start h b)
    (hfit : ∀ m ∈ h, ∀ y ∈ m.output.moves, BindFits L y) : Settled b.device :=
  r.invariant (P := fun b ↦ Settled b.device) ⟨.inr rfl, rfl⟩
    (fun _ _ hd hg ↦ hd.next ho hg) hfit

theorem not_erases_of_not_loop (hi : ∀ x, i ≠ .loop x) : ¬ Erases ((board L o flash).move b i) := by
  intro herase
  obtain ⟨y, hy, rest, hout⟩ := herase
  have hstore : Action.storeBootstrapData [] ∈ y.output := by
    rw [hout]
    exact List.mem_cons_self
  cases i with
  | setup micros =>
    obtain rfl := List.mem_singleton.mp hy
    exact bstSetup_not_stores _ hstore trivial
  | loop x => exact absurd rfl (hi x)
  | scanDone ok result =>
    change y ∈ (boardStep L o (.scanDone ok result) b).2.moves at hy
    unfold boardStep at hy
    dsimp only at hy
    split at hy
    · cases hy
    · obtain rfl := List.mem_singleton.mp hy
      exact wifiNetworkList_only (P := fun a ↦ ¬ a.Stores) (fun _ ↦ id) _ hstore trivial

/-- A press that is long enough ends in the mode in which it counts. -/
def EndsLongPress (x : Turn) (b : Board) (h : List BoardMove) : Prop :=
  x.btn = false ∧ b.device.inst.state.state = .destinationConnected ∧
    ∃ p, CountsFrom p (buttonHistory h) ∧ 3700 < x.currentMillis - p

theorem Settled.erases_iff (hd : Settled b.device)
    (r : button.Run button.start (buttonHistory h) b.button)
    (hfit : ∀ y ∈ ((board L o flash).move b i).output.moves, BindFits L y) :
    (Erases ((board L o flash).move b i) ↔ ∃ x, i = .loop x ∧ EndsLongPress x b h) ∧
      (Erases ((board L o flash).move b i) →
        ((board L o flash).move b i).post.device.flash = ⟨[], []⟩) := by
  by_cases hi : ∀ x, i ≠ .loop x
  · have hnone : ¬ Erases ((board L o flash).move b i) := not_erases_of_not_loop hi
    refine ⟨iff_of_false hnone fun hx ↦ ?_, fun herase ↦ absurd herase hnone⟩
    obtain ⟨x, hx, -⟩ := hx
    exact hi x hx
  · obtain ⟨x, hx⟩ := not_forall_not.mp hi
    subst hx
    obtain ⟨-, hiff, hflash⟩ := hd.loop hfit
    have hcalls : .factoryReset ∈ (x.press b).2 ↔ EndsLongPress x b h :=
      (handle_calls_iff r (x.sample b.device)).1
    refine ⟨hiff.trans (hcalls.trans ⟨fun hlong ↦ ⟨x, rfl, hlong⟩, fun hx ↦ ?_⟩),
      fun herase ↦ hflash (hiff.mp herase)⟩
    obtain ⟨x', he, hlong⟩ := hx
    cases he
    exact hlong

/-- As long as no app overruns the secret, the stored files are emptied by the one call of
`loop` that sees the end of a long press, whatever packet comes with it, and by nothing else. -/
theorem long_press_erases (ho : o.Ready) (r : (board L o flash).Run (board L o flash).start h b)
    (hfit : ∀ m ∈ h, ∀ y ∈ m.output.moves, BindFits L y) :
    ∀ later m earlier, h = later ++ m :: earlier →
      (Erases m ↔ ∃ x, m.input = .loop x ∧ EndsLongPress x m.pre earlier) ∧
      (Erases m → m.post.device.flash = ⟨[], []⟩) := by
  intro later m earlier hh
  subst hh
  obtain ⟨hr, he, -⟩ := r.split
  have hs := settled_of_run ho hr fun y hy ↦ hfit y (by simp [hy])
  have hm := hfit m (by simp)
  rw [he] at hm ⊢
  exact hs.erases_iff (run_button hr) hm

/-- A board with stored data is switched on, finds its network, and its button is held from
0.2 s to 5 s. -/
def quietTurn (currentMillis : UInt32) (btn : Bool) : Turn where
  currentMillis := currentMillis
  btn := btn
  packet := none
  rand := 0
  inputMicros := currentMillis * 1000
  periodicMicros := currentMillis * 1000
  reception := ⟨.gotIp, 0, currentMillis * 1000, currentMillis * 1000⟩

def sampleFlash : Flash := ⟨[104, 0, 112], []⟩

def boardOn : BoardMove :=
  (board lp64 sampleOptions sampleFlash).move (board lp64 sampleOptions sampleFlash).start
    (.setup 1000)

def boardOnline : BoardMove :=
  (board lp64 sampleOptions sampleFlash).move boardOn.post (.loop (quietTurn 100 false))

def boardPressed : BoardMove :=
  (board lp64 sampleOptions sampleFlash).move boardOnline.post (.loop (quietTurn 200 true))

def boardReleased : BoardMove :=
  (board lp64 sampleOptions sampleFlash).move boardPressed.post (.loop (quietTurn 5000 false))

theorem boardPressed_post :
    boardPressed.post.device.inst.state.state = .destinationConnected := by
  decide

theorem bindFits_of_command (hx : ∀ data ∈ x.packet, command data ≠ cmdBind) :
    ∀ y ∈ ((board L o flash).move b (.loop x)).output.moves, BindFits L y := by
  intro y hy data random pkt hc hacc
  have hcommand : command data = cmdBind := hacc.1.command_eq ▸ hacc.2.1
  rcases loop_calls y hy with ⟨conn, hp⟩ | hp | hp | ⟨data', hpacket, hp⟩
  · rw [hp] at hc
    cases hc
  · rw [hp] at hc
    cases hc
  · rw [hp] at hc
    cases hc
  · rw [hp] at hc
    obtain rfl := (Call.networkInput.inj hc).1
    exact absurd hcommand (hx data' hpacket)

theorem sample_bindFits :
    ∀ m ∈ [boardReleased, boardPressed, boardOnline, boardOn], ∀ y ∈ m.output.moves,
      BindFits lp64 y := by
  have hon : ∀ y ∈ boardOn.output.moves, BindFits lp64 y :=
    List.forall_mem_singleton.mpr (bindFits_of_call nofun)
  have hloop (b : Board) (currentMillis : UInt32) (btn : Bool) :
      ∀ y ∈ ((board lp64 sampleOptions sampleFlash).move b
        (.loop (quietTurn currentMillis btn))).output.moves, BindFits lp64 y :=
    bindFits_of_command nofun
  exact List.forall_mem_cons.mpr ⟨hloop _ _ _, List.forall_mem_cons.mpr ⟨hloop _ _ _,
    List.forall_mem_cons.mpr ⟨hloop _ _ _, List.forall_mem_singleton.mpr hon⟩⟩⟩

theorem boardOnline_rests : Rests (buttonHistory [boardOnline, boardOn]) := by
  change SketchCall.factoryReset ∉ _
  decide

theorem sample_long_press_erases : Erases boardReleased :=
  ((long_press_erases sampleOptions_ready ((((Machine.Run.nil.snoc _).snoc _).snoc _).snoc _)
    sample_bindFits [] boardReleased [boardPressed, boardOnline, boardOn] rfl).1).mpr
    ⟨_, rfl, rfl, boardPressed_post, 200, .inr ⟨boardOnline_rests, by decide, rfl⟩, by decide⟩

end BootstrapWifi
