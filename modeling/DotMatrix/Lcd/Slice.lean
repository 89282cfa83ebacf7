import DotMatrix.Lcd.Drawing

/-! # The course of a frame

Each of the first 144 lines is searched for sprites, drawn, and waited out; ten more lines lie
between two frames. Time passes in slices of at most four T-cycles. At the end of a slice the current
line is compared anew, and the status line takes its new level, a rise of which asks for an
interrupt. Entering the time between frames counts, for that slice, as a search for sprites too.
-/
namespace DotMatrix

namespace Lcd

/-- Find the sprites of the current line. -/
def search (lcd : Lcd) : Lcd :=
  { lcd with sprites := Sprite.onLine lcd.oam lcd.control.spriteHeight lcd.line }

/-- Go on to the next mode if the time of the current one is over. Also says whether a frame was
finished by this. -/
def turn (lcd : Lcd) : Lcd × Bool :=
  if lcd.clock < lcd.mode.length then (lcd, false)
  else
    let clock := lcd.clock - lcd.mode.length
    match lcd.mode with
    | .hblank =>
      if lcd.line + 1 = 144 then
        ({ lcd with
            clock := clock
            line := lcd.line + 1
            mode := .vblank
            frameReady := true
            frames := lcd.frames + 1 }, true)
      else ({ lcd with clock := clock, line := lcd.line + 1, mode := .search }, false)
    | .vblank =>
      if 153 < lcd.line + 1 then
        ({ lcd with clock := clock, line := 0, windowLine := 0, mode := .search }, false)
      else ({ lcd with clock := clock, line := lcd.line + 1 }, false)
    | .search => ({ lcd.search with clock := clock, mode := .transfer }, false)
    | .transfer => ({ lcd.draw with clock := clock, mode := .hblank }, false)

/-- The level of the status line; `entered` says that the time between frames has just begun. -/
def statLevel (lcd : Lcd) (entered : Bool) : Bool :=
  (lcd.coincidence && lcd.sources.coincidence) || lcd.sources.inMode lcd.mode ||
    (entered && lcd.sources.search)

/-- Bring the comparison and the status line up to date. -/
def refresh (lcd : Lcd) (entered : Bool) : Lcd × List Interrupt :=
  let lcd := lcd.compareLine
  let level := lcd.statLevel entered
  let rise := level && !lcd.statLine
  ({ lcd with statLine := level },
    (if entered then [.vblank] else []) ++ (if rise then [.lcdStat] else []))

/-- **One slice**, of at most four T-cycles. Nothing happens while the LCD is off. -/
def slice (cycles : Nat) (lcd : Lcd) : Lcd × List Interrupt :=
  if lcd.control.enabled then
    match { lcd with clock := lcd.clock + cycles }.turn with
    | (lcd, entered) => lcd.refresh entered
  else (lcd, [])

/-- Several T-cycles: as many full slices as there are, and a shorter one for the rest. -/
def advance (cycles : Nat) (lcd : Lcd) : Lcd × List Interrupt :=
  match Interrupt.collect (slice 4) (cycles / 4) lcd with
  | (lcd, requests) =>
    if cycles % 4 = 0 then (lcd, requests)
    else
      match lcd.slice (cycles % 4) with
      | (lcd, more) => (lcd, requests ++ more)

end Lcd
end DotMatrix
