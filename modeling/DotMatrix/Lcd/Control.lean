import DotMatrix.Word
import DotMatrix.Lcd.Screen

/-! # Settings of the LCD

The values a program gives the LCD to work with: the control register, the choice of events that
interrupt, the palettes, and the four modes in which a line is drawn.
-/
namespace DotMatrix

/-! ## The control register -/

/-- The register LCDC. -/
structure Control where
  bits : UInt8 := 0
  deriving DecidableEq, Inhabited

namespace Control

/-- Bit 7: the LCD is on. -/
def enabled (control : Control) : Bool := control.bits &&& 0x80 != 0

/-- Bit 6: the window uses the second map. -/
def windowMap (control : Control) : Bool := control.bits &&& 0x40 != 0

/-- Bit 5: the window is shown. -/
def window (control : Control) : Bool := control.bits &&& 0x20 != 0

/-- Bit 4: background tiles are numbered from the start of video memory, without sign. -/
def unsignedTiles (control : Control) : Bool := control.bits &&& 0x10 != 0

/-- Bit 3: the background uses the second map. -/
def backgroundMap (control : Control) : Bool := control.bits &&& 0x08 != 0

/-- Bit 2: sprites are two tiles high. -/
def tallSprites (control : Control) : Bool := control.bits &&& 0x04 != 0

/-- Bit 1: sprites are shown. -/
def sprites (control : Control) : Bool := control.bits &&& 0x02 != 0

/-- Bit 0: background and window are shown. -/
def background (control : Control) : Bool := control.bits &&& 0x01 != 0

/-- Lines of a sprite. -/
def spriteHeight (control : Control) : Nat := if control.tallSprites then 16 else 8

end Control

/-! ## Modes -/

/-- What the LCD is doing. -/
inductive Mode where
  /-- Waiting for the end of a line. -/
  | hblank
  /-- Between two frames. -/
  | vblank
  /-- Looking for the sprites of the line. -/
  | search
  /-- Drawing the line. -/
  | transfer
  deriving DecidableEq, Inhabited

namespace Mode

/-- The number shown in the status register. -/
def number : Mode → UInt8
  | hblank => 0
  | vblank => 1
  | search => 2
  | transfer => 3

/-- T-cycles spent in the mode, each time; between frames, for each line. -/
def length : Mode → Nat
  | hblank => 204
  | vblank => 456
  | search => 80
  | transfer => 172

end Mode

/-! ## Sources of the status interrupt -/

/-- The events that may raise the status line, as chosen in the register STAT. -/
structure Sources where
  hblank : Bool := false
  vblank : Bool := false
  search : Bool := false
  /-- The current line is the one asked for. -/
  coincidence : Bool := false
  deriving DecidableEq, Inhabited

namespace Sources

/-- The choice that a byte stands for; the other bits are ignored. -/
def ofByte (byte : UInt8) : Sources where
  hblank := byte &&& 0x08 != 0
  vblank := byte &&& 0x10 != 0
  search := byte &&& 0x20 != 0
  coincidence := byte &&& 0x40 != 0

/-- The byte that stands for the choice. -/
def toByte (sources : Sources) : UInt8 :=
  maskIf sources.hblank 0x08 ||| maskIf sources.vblank 0x10 |||
    maskIf sources.search 0x20 ||| maskIf sources.coincidence 0x40

/-- Whether being in a mode raises the line. -/
def inMode (sources : Sources) : Mode → Bool
  | .hblank => sources.hblank
  | .vblank => sources.vblank
  | .search => sources.search
  | .transfer => false

end Sources

/-! ## Palettes -/

/-- The shades of the four colour numbers, two bits each, colour 0 lowest. -/
structure Palette where
  bits : UInt8 := 0
  deriving DecidableEq, Inhabited

namespace Palette

/-- The shade of a colour number from 0 to 3. -/
def shade (palette : Palette) (colour : UInt8) : Shade :=
  .ofNumber (palette.bits >>> (2 * colour))

end Palette
end DotMatrix
