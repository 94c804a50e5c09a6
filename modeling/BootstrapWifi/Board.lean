import BootstrapWifi.Button
import BootstrapWifi.Commands
import BootstrapWifi.Esp8266
import BootstrapWifi.LinkMove
import BootstrapWifi.ScanDone
import BootstrapWifi.StoredBlobs

namespace BootstrapWifi

open Mealy

/-- What the library, the sketch and the platform code keep in memory. -/
structure Board where
  device : Device
  button : Button
  lastRssiTime : ℤ

/-- What one call of `loop` meets: `millis()`, the button, a datagram if there is one, and what
the platform code reads from the SDK. -/
structure Turn where
  currentMillis : UInt32
  btn : Bool
  packet : Option (List UInt8)
  rand : Fin (2 ^ 31)
  inputMicros : UInt32
  periodicMicros : UInt32
  reception : Reception

inductive BoardInput
  | setup (micros : UInt32)
  | loop (x : Turn)
  | scanDone (ok : Bool) (result : List BssInfo)

/-- The calls of the library are listed newest first. -/
structure BoardOutput where
  sketch : List SketchCall
  moves : List LibraryMove
  sdk : List SdkCall

abbrev BoardMove := Move Board BoardInput BoardOutput

def SketchCall.call : SketchCall → Option Call
  | .digitalWrite _ => none
  | .factoryReset => some .factoryReset
  | .confirmBootstrap => some .confirmBootstrap

/-- What `handleLEDandButton` and `bst_loop_esp8266` call before `bst_periodic`. -/
def Turn.calls (x : Turn) (sketch : List SketchCall) : List Call :=
  sketch.filterMap SketchCall.call ++
    x.packet.toList.map fun data ↦ .networkInput data (bstGetRandom x.rand)

def Turn.events (x : Turn) (sketch : List SketchCall) : List Event :=
  (x.calls sketch).map fun call ↦ ⟨systemTimeMs x.inputMicros, call⟩

def Turn.sample (x : Turn) (d : Device) : Sample := ⟨x.currentMillis, x.btn, d.inst.state.state⟩

def Turn.press (x : Turn) (b : Board) : Button × List SketchCall :=
  handleLEDandButton (x.sample b.device) b.button

/-- The library as `bst_periodic` finds it, and the calls until then. -/
def Turn.before (L : Layout) (x : Turn) (b : Board) : List LibraryMove × Device :=
  (library L).exec b.device (x.events (x.press b).2)

def sketchLoop (L : Layout) (x : Turn) (b : Board) : Board × BoardOutput :=
  let seen := bstGetConnectionState x.reception b.lastRssiTime
  let periodic := (library L).move (x.before L b).2
    ⟨systemTimeMs x.periodicMicros, .periodic seen.2.1⟩
  -- `bst_periodic` asks for the connection after the requests that it serves first
  let polled := (x.before L b).2.inst.Polls
  (⟨periodic.post, (x.press b).1, if polled then seen.1 else b.lastRssiTime⟩,
    ⟨(x.press b).2, periodic :: (x.before L b).1, if polled then seen.2.2 else []⟩)

def boardStep (L : Layout) (o : Options) (i : BoardInput) (b : Board) : Board × BoardOutput :=
  match i with
  | .setup micros =>
    let m := (library L).move b.device
      ⟨systemTimeMs micros, .setup o b.device.flash.data b.device.flash.key⟩
    (⟨m.post, button.start, radio.start⟩, ⟨[], [m], []⟩)
  | .loop x => sketchLoop L x b
  | .scanDone ok result =>
    match prvScanDone ok result with
    | none => (b, ⟨[], [], []⟩)
    | some list =>
      let m := (library L).move b.device ⟨0, .wifiNetworkList list⟩
      ({ b with device := m.post }, ⟨[], [m], []⟩)

/-- The runs of a board that finds `flash` in its files and that the sketch sets up with `o`. -/
def board (L : Layout) (o : Options) (flash : Flash) : Machine Board BoardInput BoardOutput :=
  ⟨⟨{ Device.off with flash := flash }, button.start, radio.start⟩, boardStep L o⟩

variable {L : Layout} {o : Options} {x : Turn} {b : Board} {h : List BoardMove} {m : BoardMove}
  {i : BoardInput} {flash : Flash} {d : Device} {e : Event} {conn : ConnectState}

/-- A step of the board is a few calls of the library. -/
theorem step_library (i : BoardInput) (b : Board) : (library L).Run b.device
    ((board L o flash).step i b).2.moves ((board L o flash).step i b).1.device := by
  cases i with
  | setup micros => exact Machine.Run.nil.snoc _
  | loop x => exact ((library L).run_exec b.device _).snoc _
  | scanDone ok result =>
    change (library L).Run b.device (boardStep L o (.scanDone ok result) b).2.moves
      (boardStep L o (.scanDone ok result) b).1.device
    unfold boardStep
    dsimp only
    split
    · exact .nil
    · exact Machine.Run.nil.snoc _

/-- Once it is set up, a board runs the library as any platform does that kept its files. -/
theorem run_library {micros : UInt32}
    (r : (board L o flash).Run ((board L o flash).step (.setup micros) (board L o flash).start).1
      h b) :
    (library L).Run .off (h.flatMap (·.output.moves) ++
      [(library L).move .off ⟨systemTimeMs micros, .setup o flash.data flash.key⟩]) b.device := by
  induction r with
  | nil => exact Machine.Run.nil.snoc _
  | snoc r i ih =>
    rw [List.flatMap_cons, List.append_assoc]
    exact ih.append (step_library i _)

/-- The calls of `handleLEDandButton` since the board was started last. -/
def buttonHistory : List BoardMove → List ButtonMove
  | [] => []
  | m :: h =>
    match m.input with
    | .setup _ => []
    | .loop x => button.move m.pre.button (x.sample m.pre.device) :: buttonHistory h
    | .scanDone .. => buttonHistory h

theorem run_button (r : (board L o flash).Run (board L o flash).start h b) :
    button.Run button.start (buttonHistory h) b.button := by
  induction r with
  | nil => exact .nil
  | @snoc h b r i ih =>
    cases i with
    | setup micros => exact .nil
    | loop x => exact ih.snoc _
    | scanDone ok result =>
      have hsame : ((board L o flash).step (.scanDone ok result) b).1.button = b.button := by
        change (boardStep L o (.scanDone ok result) b).1.button = b.button
        unfold boardStep
        dsimp only
        split <;> rfl
      rw [hsame]
      exact ih

/-- The calls of `bst_get_connection_state` since the board was started last. -/
def radioHistory (L : Layout) : List BoardMove → List RadioMove
  | [] => []
  | m :: h =>
    match m.input with
    | .setup _ => []
    | .loop x =>
      if (x.before L m.pre).2.inst.Polls then
        radio.move m.pre.lastRssiTime x.reception :: radioHistory L h
      else radioHistory L h
    | .scanDone .. => radioHistory L h

theorem run_radio (r : (board L o flash).Run (board L o flash).start h b) :
    radio.Run radio.start (radioHistory L h) b.lastRssiTime := by
  induction r with
  | nil => exact .nil
  | @snoc h b r i ih =>
    cases i with
    | setup micros => exact .nil
    | loop x =>
      change radio.Run radio.start (if (x.before L b).2.inst.Polls then _ else _)
        (if (x.before L b).2.inst.Polls then _ else _)
      split
      · exact ih.snoc _
      · exact ih
    | scanDone ok result =>
      have hsame :
          ((board L o flash).step (.scanDone ok result) b).1.lastRssiTime = b.lastRssiTime := by
        change (boardStep L o (.scanDone ok result) b).1.lastRssiTime = b.lastRssiTime
        unfold boardStep
        dsimp only
        split <;> rfl
      rw [hsame]
      exact ih

theorem press_reset (hc : .factoryReset ∈ (x.press b).2) :
    (x.press b).2 = [.factoryReset] ∧ b.device.inst.state.state = .destinationConnected := by
  have hx : x.btn = false := by
    by_contra hx
    have hdown : (x.sample b.device).btn = true := Bool.eq_true_of_not_eq_false hx
    exact (handle_pressed hdown).2.1 hc
  have hb : b.button.previousMillisButton ≠ 0 := fun hb ↦ (handle_idle hx hb).2.1 hc
  obtain ⟨hmode, hlong⟩ := (handle_released (x := x.sample b.device) hx hb).1.mp hc
  refine ⟨?_, hmode⟩
  unfold Turn.press handleLEDandButton
  rw [if_neg fun h ↦ hb h.1, if_pos ⟨hb, hx⟩]
  dsimp only
  rw [if_pos hlong, if_pos hmode]

theorem quiet_events (hc : .factoryReset ∉ (x.press b).2) :
    ∀ e ∈ x.events (x.press b).2, e.call ≠ .factoryReset ∧ ¬ e.call.IsSetup := by
  intro e he
  obtain ⟨call, hcall, rfl⟩ := List.mem_map.mp he
  rcases List.mem_append.mp hcall with hsketch | hpacket
  · obtain ⟨c, hmem, hc'⟩ := List.mem_filterMap.mp hsketch
    cases c with
    | digitalWrite level => cases hc'
    | factoryReset => exact absurd hmem hc
    | confirmBootstrap =>
      cases hc'
      exact ⟨nofun, id⟩
  · obtain ⟨data, -, rfl⟩ := List.mem_map.mp hpacket
    exact ⟨nofun, id⟩

/-- What one call of `loop` can call of the library. -/
theorem loop_calls : ∀ y ∈ ((board L o flash).move b (.loop x)).output.moves,
    (∃ conn, y.input.call = .periodic conn) ∨ y.input.call = .factoryReset ∨
      y.input.call = .confirmBootstrap ∨ ∃ data, x.packet = some data ∧
        y.input.call = .networkInput data (bstGetRandom x.rand) := by
  intro y hy
  rcases List.mem_cons.mp hy with rfl | hy
  · exact .inl ⟨_, rfl⟩
  have hinput : y.input ∈ x.events (x.press b).2 := by
    rw [← List.mem_reverse, ← (library L).map_input_exec b.device]
    exact List.mem_map_of_mem hy
  obtain ⟨call, hcall, he⟩ := List.mem_map.mp hinput
  rw [← he]
  rcases List.mem_append.mp hcall with hsketch | hpacket
  · obtain ⟨c, -, hc⟩ := List.mem_filterMap.mp hsketch
    cases c with
    | digitalWrite level => cases hc
    | factoryReset => exact .inr (.inl (Option.some.inj hc).symm)
    | confirmBootstrap => exact .inr (.inr (.inl (Option.some.inj hc).symm))
  · obtain ⟨data, hdata, rfl⟩ := List.mem_map.mp hpacket
    exact .inr (.inr (.inr ⟨data, Option.mem_toList.mp hdata, rfl⟩))

end BootstrapWifi
