import BootstrapWifi.Device

namespace BootstrapWifi

open Mealy

/-- What `handleLEDandButton` reads: `millis()`, the button, and `bst_get_state()`. -/
structure Sample where
  currentMillis : UInt32
  btn : Bool
  state : BstState
deriving DecidableEq

/-- The statics of `handleLEDandButton`; `true` is `HIGH`. -/
structure Button where
  previousMillis : UInt32
  previousMillisButton : UInt32
  ledState : Bool
deriving DecidableEq

inductive SketchCall
  | digitalWrite (level : Bool)
  | factoryReset
  | confirmBootstrap
deriving DecidableEq

/-- The `int` is compared with an `unsigned long`, so its negative values are large ones. -/
def blinkInterval (x : Sample) (previousMillisButton : UInt32) : UInt32 :=
  if x.btn then 200 - (x.currentMillis - previousMillisButton) * 200 / 3800
  else match x.state with
    | .connectingToBootstrap => 200
    | .waitingForData => 500
    | .connectingToDest => 700
    | .destinationConnected | .uninitialized => 0

/-- On the destination network the LED is switched off with every call. -/
def Sample.off (x : Sample) : List SketchCall :=
  if x.btn = false ∧ (x.state = .destinationConnected ∨ x.state = .uninitialized) then
    [.digitalWrite true]
  else []

def Button.blink (x : Sample) (b : Button) : Button × List SketchCall :=
  let interval := blinkInterval x b.previousMillisButton
  if interval ≠ 0 ∧ x.currentMillis - b.previousMillis ≥ interval then
    ({ b with previousMillis := x.currentMillis, ledState := !b.ledState },
      x.off ++ [.digitalWrite (!b.ledState)])
  else (b, x.off)

def handleLEDandButton (x : Sample) (b : Button) : Button × List SketchCall :=
  if b.previousMillisButton = 0 ∧ x.btn = true then
    Button.blink x { b with previousMillisButton := x.currentMillis }
  else if b.previousMillisButton ≠ 0 ∧ x.btn = false then
    let held := x.currentMillis - b.previousMillisButton
    if held > 3700 then
      -- the early return leaves the duration where the next call looks for a time
      if x.state = .destinationConnected then
        ({ b with previousMillisButton := held }, [.factoryReset])
      else Button.blink x { b with previousMillisButton := 0 }
    else if held > 100 then
      let r := Button.blink x { b with previousMillisButton := 0 }
      (r.1, .confirmBootstrap :: r.2)
    else Button.blink x { b with previousMillisButton := 0 }
  else Button.blink x b

/-- The calls of `handleLEDandButton` from one start of the board to the next. -/
def button : Machine Button Sample (List SketchCall) := ⟨⟨0, 0, false⟩, handleLEDandButton⟩

abbrev ButtonMove := Move Button Sample (List SketchCall)

/-- No press is being counted: a press that is first seen at `millis()` = 0 is not noticed,
and one that asks for a factory reset leaves its duration behind. -/
def Rests : List ButtonMove → Prop
  | [] => True
  | m :: h => if m.input.btn then Rests h ∧ m.input.currentMillis = 0
      else .factoryReset ∉ m.output

/-- Durations are counted from `p`: the time of the first sample of the press that lasts, or
the duration of the press that asked for the last factory reset. -/
def CountsFrom (p : UInt32) : List ButtonMove → Prop
  | [] => False
  | m :: h => if m.input.btn then CountsFrom p h ∨ Rests h ∧ p ≠ 0 ∧ m.input.currentMillis = p
      else .factoryReset ∈ m.output ∧ ∃ q, CountsFrom q h ∧ m.input.currentMillis - q = p

variable {x : Sample} {b : Button} {h : List ButtonMove} {p : UInt32}

theorem blink_previousMillisButton :
    (Button.blink x b).1.previousMillisButton = b.previousMillisButton := by
  unfold Button.blink
  dsimp only
  split <;> rfl

theorem off_calls (c : SketchCall) (hc : ∀ level, c ≠ .digitalWrite level) : c ∉ x.off := by
  unfold Sample.off
  split
  · simpa using hc true
  · exact List.not_mem_nil

/-- The LED calls nothing of the library. -/
theorem blink_calls (c : SketchCall) (hc : ∀ level, c ≠ .digitalWrite level) :
    c ∉ (Button.blink x b).2 := by
  unfold Button.blink
  dsimp only
  split
  · simpa [off_calls c hc] using hc _
  · exact off_calls c hc

theorem blink_not_reset : .factoryReset ∉ (Button.blink x b).2 := blink_calls _ nofun

theorem blink_not_confirm : .confirmBootstrap ∉ (Button.blink x b).2 := blink_calls _ nofun

/-- What one call of `handleLEDandButton` does with a button that is down. -/
theorem handle_pressed (hx : x.btn = true) :
    (handleLEDandButton x b).1.previousMillisButton =
        (if b.previousMillisButton = 0 then x.currentMillis else b.previousMillisButton) ∧
      .factoryReset ∉ (handleLEDandButton x b).2 ∧
      .confirmBootstrap ∉ (handleLEDandButton x b).2 := by
  unfold handleLEDandButton
  by_cases hb : b.previousMillisButton = 0
  · rw [if_pos ⟨hb, hx⟩, if_pos hb]
    exact ⟨blink_previousMillisButton, blink_not_reset, blink_not_confirm⟩
  · rw [if_neg fun h ↦ hb h.1, if_neg fun h ↦ by simp [hx] at h, if_neg hb]
    exact ⟨blink_previousMillisButton, blink_not_reset, blink_not_confirm⟩

theorem handle_idle (hx : x.btn = false) (hb : b.previousMillisButton = 0) :
    (handleLEDandButton x b).1.previousMillisButton = 0 ∧
      .factoryReset ∉ (handleLEDandButton x b).2 ∧
      .confirmBootstrap ∉ (handleLEDandButton x b).2 := by
  unfold handleLEDandButton
  rw [if_neg fun h ↦ by simp [hx] at h, if_neg fun h ↦ h.1 hb]
  exact ⟨blink_previousMillisButton.trans hb, blink_not_reset, blink_not_confirm⟩

/-- What one call does when the button has been let go. -/
theorem handle_released (hx : x.btn = false) (hb : b.previousMillisButton ≠ 0) :
    let held := x.currentMillis - b.previousMillisButton
    (.factoryReset ∈ (handleLEDandButton x b).2 ↔
        x.state = .destinationConnected ∧ 3700 < held) ∧
      (.confirmBootstrap ∈ (handleLEDandButton x b).2 ↔ 100 < held ∧ held ≤ 3700) ∧
      (handleLEDandButton x b).1.previousMillisButton =
        if .factoryReset ∈ (handleLEDandButton x b).2 then held else 0 := by
  intro held
  have hreset := blink_not_reset (x := x) (b := { b with previousMillisButton := 0 })
  have hconfirm := blink_not_confirm (x := x) (b := { b with previousMillisButton := 0 })
  have hprev := blink_previousMillisButton (x := x) (b := { b with previousMillisButton := 0 })
  unfold handleLEDandButton
  rw [if_neg fun h ↦ hb h.1, if_pos ⟨hb, hx⟩]
  by_cases hlong : 3700 < held
  · rw [if_pos hlong]
    by_cases hd : x.state = .destinationConnected
    · rw [if_pos hd]
      simp [hd, hlong, held]
    · rw [if_neg hd]
      simp [hd, hreset, hconfirm, hlong, hprev]
  · rw [if_neg hlong]
    by_cases hshort : 100 < held
    · rw [if_pos hshort]
      simp [hreset, hlong, hprev, UInt32.not_lt.mp hlong, hshort]
    · rw [if_neg hshort]
      simp [hreset, hconfirm, hlong, hprev, hshort]

/-- The static holds what the durations are counted from. -/
theorem counted_of_run (r : button.Run button.start h b) :
    (Rests h ↔ b.previousMillisButton = 0) ∧
      ∀ p, CountsFrom p h ↔ p ≠ 0 ∧ b.previousMillisButton = p := by
  induction r with
  | nil => exact ⟨⟨fun _ ↦ rfl, fun _ ↦ trivial⟩, fun p ↦ ⟨False.elim, fun hp ↦ hp.1 hp.2.symm⟩⟩
  | @snoc h b r x ih =>
    obtain ⟨hrests, hcounts⟩ := ih
    have hpost : (button.step x b).1 = (handleLEDandButton x b).1 := rfl
    have hout : (button.move b x).output = (handleLEDandButton x b).2 := rfl
    simp only [Rests, CountsFrom, move_input, hpost, hout, hrests, hcounts]
    cases hx : x.btn with
    | true =>
      rw [(handle_pressed hx).1]
      by_cases hb : b.previousMillisButton = 0
      · have hzero (p : UInt32) (hp : p ≠ 0) : (0 : UInt32) ≠ p := hp.symm
        simp +contextual [hb, hzero]
      · simp [hb]
    | false =>
      by_cases hb : b.previousMillisButton = 0
      · obtain ⟨hprev, hreset, -⟩ := handle_idle hx hb
        simp [hprev, hreset, eq_comm]
      · obtain ⟨hreset, -, hprev⟩ := handle_released hx hb
        rw [hprev]
        by_cases hr : .factoryReset ∈ (handleLEDandButton x b).2
        · have hheld : x.currentMillis - b.previousMillisButton ≠ 0 := by
            intro hzero
            have hlong := (hreset.mp hr).2
            rw [hzero] at hlong
            exact absurd hlong (by decide)
          rw [if_pos hr]
          refine ⟨by simp [hr, hheld], fun p ↦ ?_⟩
          constructor
          · intro hp
            obtain ⟨-, q, ⟨-, rfl⟩, rfl⟩ := hp
            exact ⟨hheld, rfl⟩
          · intro hp
            obtain ⟨-, rfl⟩ := hp
            exact ⟨hr, _, ⟨hb, rfl⟩, rfl⟩
        · simp +contextual [hr, eq_comm]

theorem handle_calls_iff (r : button.Run button.start h b) (x : Sample) :
    (.factoryReset ∈ (handleLEDandButton x b).2 ↔ x.btn = false ∧
        x.state = .destinationConnected ∧ ∃ p, CountsFrom p h ∧ 3700 < x.currentMillis - p) ∧
      (.confirmBootstrap ∈ (handleLEDandButton x b).2 ↔ x.btn = false ∧
        ∃ p, CountsFrom p h ∧ 100 < x.currentMillis - p ∧ x.currentMillis - p ≤ 3700) := by
  obtain ⟨-, hcounts⟩ := counted_of_run r
  simp only [hcounts]
  cases hx : x.btn with
  | true =>
    obtain ⟨-, hreset, hconfirm⟩ := handle_pressed (b := b) hx
    simp [hreset, hconfirm]
  | false =>
    by_cases hb : b.previousMillisButton = 0
    · obtain ⟨-, hreset, hconfirm⟩ := handle_idle hx hb
      simp [hreset, hconfirm, hb]
    · obtain ⟨hreset, hconfirm, -⟩ := handle_released hx hb
      simp [hreset, hconfirm, hb]

/-- `handleLEDandButton` calls the library when the button is let go, and tells the two calls
apart by the duration alone. -/
theorem button_calls_iff (r : button.Run button.start h b) :
    ∀ later m earlier, h = later ++ m :: earlier →
      (.factoryReset ∈ m.output ↔ m.input.btn = false ∧
        m.input.state = .destinationConnected ∧
          ∃ p, CountsFrom p earlier ∧ 3700 < m.input.currentMillis - p) ∧
      (.confirmBootstrap ∈ m.output ↔ m.input.btn = false ∧
        ∃ p, CountsFrom p earlier ∧ 100 < m.input.currentMillis - p ∧
          m.input.currentMillis - p ≤ 3700) := by
  intro later m earlier hh
  subst hh
  obtain ⟨hr, he, -⟩ := r.split
  have hout : m.output = (handleLEDandButton m.input m.pre).2 := congrArg Move.output he
  rw [hout]
  exact handle_calls_iff hr m.input

def longPress : ButtonMove := button.move button.start ⟨1000, true, .connectingToDest⟩

def longRelease : ButtonMove := button.move longPress.post ⟨11000, false, .destinationConnected⟩

def afterRelease : ButtonMove := button.move longRelease.post ⟨11005, false, .connectingToBootstrap⟩

/-- A reset that was asked for with a press in the first seconds of uptime confirms the next
bootstrap as well. -/
theorem sample_phantom_confirm : .confirmBootstrap ∈ afterRelease.output :=
  ((button_calls_iff (((Machine.Run.nil.snoc _).snoc _).snoc _) [] afterRelease
    [longRelease, longPress] rfl).2).mpr
    ⟨rfl, 10000, ⟨by decide, 1000, .inr ⟨trivial, by decide, rfl⟩, by decide⟩, by decide, by decide⟩

end BootstrapWifi
