import DotMatrix.Proofs.Lcd.Pixel
import DotMatrix.Proofs.Lcd.WholeFrame

/-! # The lines of the window

The window keeps its own count of lines: a line of the screen that shows nothing of it does not use up a
line of the window.  The count moves on at one place and starts over at others, while the place of the
window and the switches may change on any line.  What it must be is said by the history
(`windowLines`): the drawn lines that showed the window, since the picture started over.
-/
namespace DotMatrix
namespace Lcd

/-! ## The count -/

/-- A line is drawn with the window in it: background and window are switched on, and the window begins
no lower than the line and not beyond its right end. -/
def Event.showsWindow (event : Event) : Bool :=
  let now := event.before
  event.draws.isSome && now.lcdc 0 && now.lcdc 5 && now.windowY.toNat ≤ now.line &&
    now.windowX.toNat ≤ 166

/-- The picture starts over: the line goes back to the first one, or the LCD is switched off. -/
def Event.startsOver (event : Event) : Bool := event.wraps || event.switchesOff

/-- **The lines of the window so far**, since the picture last started over. -/
def windowLines (past : List Event) : Nat :=
  (since Event.startsOver past).countP Event.showsWindow

theorem windowLines_concat (past : List Event) (event : Event) :
    windowLines (past ++ [event]) =
      if event.startsOver then 0 else windowLines past + event.showsWindow.toNat := by
  unfold windowLines
  rw [since_concat]
  split
  · rfl
  · rw [List.countP_cons]
    cases event.showsWindow <;> rfl

/-- The part of a line that is shown is decided by four registers. -/
theorem windowShown_eq (lcd : Lcd) : lcd.windowShown =
    (lcd.lcdc 0 && lcd.lcdc 5 && lcd.windowY.toNat ≤ lcd.line && lcd.windowX.toNat ≤ 166) := by
  have background : lcd.control.background = lcd.lcdc 0 := flag_eq_testBit _ 0
  have window : lcd.control.window = lcd.lcdc 5 := flag_eq_testBit _ 5
  rw [windowShown, background, window]

/-- **What one event does to the count of the LCD.** -/
theorem Event.windowLine_after {event : Event} (short : event.use.Short) :
    event.after.windowLine =
      if event.startsOver then 0 else event.before.windowLine + event.showsWindow.toNat := by
  have none (draws : event.draws = none) : event.showsWindow = false := by
    simp [showsWindow, draws]
  have steady (marked : event.wraps = false)
      (enabled : event.after.control.enabled = event.before.control.enabled) :
      event.startsOver = false := by
    simp [startsOver, switchesOff, marked, enabled]
  cases Event.happening short with
  | quiet marked enabled _ _ windowLine =>
    rw [steady marked.wraps enabled, none marked.draws]
    exact windowLine
  | drawn marked wasOn isOn _ _ _ windowLine =>
    have shown : event.showsWindow = event.before.windowShown := by
      rw [windowShown_eq]
      simp only [showsWindow, marked.draws, Option.isSome_some, Bool.true_and]
    rw [steady marked.wraps (isOn.trans wasOn.symm), shown, windowLine]
    cases event.before.windowShown <;> rfl
  | entry marked wasOn isOn _ _ _ _ windowLine =>
    rw [steady marked.wraps (isOn.trans wasOn.symm), none marked.draws]
    exact windowLine
  | top marked _ _ _ _ _ windowLine =>
    have starts : event.startsOver = true := by simp [startsOver, marked.wraps]
    rw [starts]
    exact windowLine
  | off _ wasOn isOff windowLine =>
    have starts : event.startsOver = true := by simp [startsOver, switchesOff, wasOn, isOff]
    rw [starts]
    exact windowLine
  | on marked wasOff _ _ _ windowLine =>
    have starts : event.startsOver = false := by
      simp [startsOver, switchesOff, marked.wraps, wasOff]
    rw [starts, none marked.draws]
    exact windowLine

/-- **The LCD counts the lines of the window.** -/
theorem Course.windowLine_eq {start lcd : Lcd} {past : List Event} (course : Course start past lcd)
    (fresh : start.windowLine = 0) : lcd.windowLine = windowLines past := by
  induction course with
  | nil => exact fresh
  | @concat past lcd use short course ih =>
    rw [windowLines_concat, ← ih]
    exact @Event.windowLine_after ⟨lcd, use⟩ short

/-- A line that shows the window does not make the picture start over. -/
theorem Event.startsOver_of_showsWindow {event : Event} (short : event.use.Short)
    (shows : event.showsWindow = true) :
    event.startsOver = false ∧ event.draws = some event.before.line := by
  cases Event.happening short with
  | drawn marked wasOn isOn =>
    exact ⟨by simp [startsOver, switchesOff, marked.wraps, isOn], marked.draws⟩
  | quiet marked | entry marked | top marked | off marked | on marked =>
    simp [showsWindow, marked.draws] at shows

/-! ## The lines on the screen -/

/-- **The window is shown line by line**, in a history that led to `lcd`. -/
structure WindowInOrder (history : List Event) (lcd : Lcd) : Prop where
  /-- The LCD counts the lines of the window, at the end and before every event. -/
  now : lcd.windowLine = windowLines history
  counted : ∀ past event later, history = past ++ event :: later →
    event.before.windowLine = windowLines past
  /-- There are no more of them than lines of the screen. -/
  few : ∀ past later, history = past ++ later → windowLines past ≤ 144
  /-- A line that shows the window is one more, and shows the line of the window that comes after those
  shown before: the ground of each dot that the window reaches is the dot of the window's map, and the
  dot is given the shade that its owner has over this ground. -/
  shows : ∀ past event later, history = past ++ event :: later → event.showsWindow = true →
    windowLines (past ++ [event]) = windowLines past + 1 ∧
      ∀ x < 160, event.before.windowX.toNat ≤ x + 7 →
        event.before.groundColour x = event.before.layerColour (event.before.lcdc 6)
          (x + 7 - event.before.windowX.toNat) (windowLines past) ∧
        (∃ owner, event.before.Owner x owner) ∧
        ∀ owner, event.before.Owner x owner →
          event.after.screen.pixel x event.before.line =
            let v := grey (event.before.dotShade x owner)
            [v, v, v, 0xFF]

/-- **The window of every run is shown line by line**, wherever it is moved, switched off and on
meanwhile, and in whatever pieces time passes. -/
theorem window_in_order {start : Lcd} (reachable : Reachable start) (fresh : start.windowLine = 0)
    (uses : List Use) : WindowInOrder (history uses start) (drive uses start).1 := by
  have course := Course.history uses start
  have counted : ∀ past event later, history uses start = past ++ event :: later →
      event.before.windowLine = windowLines past := by
    intro past event later whole
    rw [whole] at course
    exact course.before.1.windowLine_eq fresh
  refine ⟨course.windowLine_eq fresh, counted, ?_, ?_⟩
  · intro past later whole
    rw [whole] at course
    obtain ⟨middle, earlier, -⟩ := course.split
    have reached := earlier.reachable reachable
    rw [← earlier.windowLine_eq fresh]
    exact Nat.le_trans reached.windowFits (linesDrawn_le reached.sound.visible)
  · intro past event later whole shows
    have count := counted past event later whole
    rw [whole] at course
    obtain ⟨earlier, short⟩ := course.before
    have reached := earlier.reachable reachable
    obtain ⟨going, draws⟩ := Event.startsOver_of_showsWindow short shows
    have visible := Event.lt_of_draws short reached draws
    refine ⟨by rw [windowLines_concat, going, shows]; rfl, fun x hx inside => ⟨?_, ?_, ?_⟩⟩
    · simp only [Event.showsWindow, Bool.and_eq_true, decide_eq_true_eq] at shows
      obtain ⟨⟨⟨⟨-, background⟩, window⟩, above⟩, left⟩ := shows
      rw [groundColour, if_neg (by simp [background]), if_pos ⟨window, above, left, inside⟩, count]
    · exact exists_owner reached.sound.ordered x
    · intro owner owned
      rw [Event.pixel_after short reached hx visible, if_pos draws, Screen.dot,
        brightness_row reached.sound.ordered hx owned]

/-- The window is left out of the second line, and the third line goes on with its second row, the only
one that is not blank. -/
theorem window_in_order_of_gap :
    let uses : List Use := [.video 0x8002 0xFF, .video 0x8003 0xFF, .register 0xFF47 0xE4,
      .register 0xFF4B 7, .register 0xFF40 0xB1, .pass 456, .register 0xFF40 0x91, .pass 456,
      .register 0xFF40 0xB1, .pass 248]
    windowLines (history uses {}) = 1 ∧ windowLines (history (uses ++ [.pass 4]) {}) = 2 ∧
      (drive (uses ++ [.pass 4]) {}).1.screen.pixel 5 2 = [0x00, 0x00, 0x00, 0xFF] := by
  intro uses
  obtain ⟨third, drawn⟩ : ∃ third : Event, third = ⟨(drive uses {}).1, .pass 4⟩ := ⟨_, rfl⟩
  have whole : history (uses ++ [.pass 4]) {} = history uses {} ++ [third] := by
    rw [history_append, drawn]
    rfl
  -- The LCD that is about to draw the third line.
  obtain ⟨count, shown, inside, hidden, line, shade⟩ : third.before.windowLine = 1 ∧
      third.showsWindow = true ∧ third.before.windowX.toNat ≤ 5 + 7 ∧
      third.before.lcdc 1 = false ∧ third.before.line = 2 ∧
      grey (third.before.dotShade 5 none) = 0x00 := by
    rw [drawn]
    decide +kernel
  obtain ⟨-, counted, -, shows⟩ := window_in_order .new rfl (uses ++ [.pass 4])
  have first : windowLines (history uses {}) = 1 := (counted _ third [] whole).symm.trans count
  obtain ⟨second, dots⟩ := shows _ third [] whole shown
  obtain ⟨-, -, dot⟩ := dots 5 (by decide) inside
  replace dot := dot none (.inl hidden)
  have after : (drive (uses ++ [.pass 4]) {}).1 = third.after := by
    rw [drive_append, drawn, drive, drive, Event.after]
  rw [whole, after, second, first]
  rw [line, shade] at dot
  exact ⟨rfl, rfl, dot⟩

end Lcd
end DotMatrix
