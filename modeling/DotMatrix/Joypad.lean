import DotMatrix.Word
import DotMatrix.Interrupt

/-! # The joypad

Eight buttons on four lines. A program selects the direction buttons, the action buttons, both or
neither; a line is low while a selected button on it is down. A line that falls asks for an
interrupt. Buttons are sampled, so the joypad sees them as they were at the last sample.
-/
namespace DotMatrix

/-! ## Buttons -/

/-- The buttons of the console. -/
inductive Button where
  | right
  | left
  | up
  | down
  | a
  | b
  | select
  | start
  deriving DecidableEq, Inhabited

namespace Button

/-- Directions first, then actions, each group in the order of the lines. -/
def all : List Button := [right, left, up, down, a, b, select, start]

/-- The bit of this button in a set of buttons: directions below, actions above. -/
def mask : Button → UInt8
  | right => 0x01
  | left => 0x02
  | up => 0x04
  | down => 0x08
  | a => 0x10
  | b => 0x20
  | select => 0x40
  | start => 0x80

end Button

/-- A set of buttons that are down. -/
structure Buttons where
  bits : UInt8 := 0
  deriving DecidableEq, Inhabited

namespace Buttons

/-- Whether a button is down. -/
def isDown (buttons : Buttons) (button : Button) : Bool := buttons.bits &&& button.mask != 0

/-- Put a button down or up. -/
def set (buttons : Buttons) (button : Button) (down : Bool) : Buttons :=
  ⟨if down then buttons.bits ||| button.mask else buttons.bits &&& ~~~button.mask⟩

/-- Put a button down. -/
def press (buttons : Buttons) (button : Button) : Buttons := buttons.set button true

/-- Let a button up. -/
def release (buttons : Buttons) (button : Button) : Buttons := buttons.set button false

end Buttons

/-! ## Lines -/

/-- The register P1 and the last sample. -/
structure Joypad where
  /-- Bits 4 and 5 as written; a clear bit selects the directions or the actions. -/
  select : UInt8 := 0x30
  /-- The buttons that were down at the last sample. -/
  pressed : UInt8 := 0
  /-- The four lines; a clear bit is a low line. -/
  lines : UInt8 := 0x0F
  deriving DecidableEq, Inhabited

namespace Joypad

/-- The lines that the selection and the sample give. -/
def level (select pressed : UInt8) : UInt8 :=
  let directions := maskIf (select &&& 0x10 == 0) (pressed &&& 0x0F)
  let actions := maskIf (select &&& 0x20 == 0) (pressed >>> 4)
  ~~~(directions ||| actions) &&& 0x0F

/-- Bring the lines up to date. -/
def refresh (joypad : Joypad) : Joypad × List Interrupt :=
  let lines := level joypad.select joypad.pressed
  ({ joypad with lines := lines }, if joypad.lines &&& ~~~lines != 0 then [.joypad] else [])

/-- Sample the buttons. -/
def poll (joypad : Joypad) (buttons : Buttons) : Joypad × List Interrupt :=
  { joypad with pressed := buttons.bits }.refresh

/-- Read the register. -/
def read (joypad : Joypad) : UInt8 := 0xC0 ||| joypad.select ||| joypad.lines

/-- Write the register. -/
def write (joypad : Joypad) (value : UInt8) : Joypad × List Interrupt :=
  { joypad with select := value &&& 0x30 }.refresh

/-- Whether any button was down at the last sample. -/
def anyPressed (joypad : Joypad) : Bool := joypad.pressed != 0

end Joypad
end DotMatrix
