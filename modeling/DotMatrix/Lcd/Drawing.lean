import DotMatrix.Lcd.Basic

/-! # Drawing a line

A line is drawn all at once, when its time for drawing is over, from the registers and memory as
they are then. Only the choice of sprites is older. Two layers are made: the ground, which is the
background with the window over it, and the objects, in which each dot belongs to the first sprite
in drawing order that has a colour there. Mixing the two gives the shades.
-/
namespace DotMatrix

namespace Lcd

/-! ## Tiles -/

/-- The colour number at a bit of a tile row, of which the first byte holds the low bits. -/
def tileColour (lcd : Lcd) (row : Nat) (bit : UInt8) : UInt8 :=
  let low := lcd.vram.read row
  let high := lcd.vram.read (row + 1)
  (((high >>> bit) &&& 1) <<< 1) ||| ((low >>> bit) &&& 1)

/-- Where the tile with a number starts in video memory, for background and window. -/
def groundTile (lcd : Lcd) (number : UInt8) : Nat :=
  if lcd.control.unsignedTiles then 16 * number.toNat
  else if number.toNat < 128 then 0x1000 + 16 * number.toNat
  else 16 * number.toNat

/-- The colour number of a map at a place; `second` chooses the map. -/
def mapColour (lcd : Lcd) (second : Bool) (x y : Nat) : UInt8 :=
  let start := if second then 0x1C00 else 0x1800
  let tile := lcd.groundTile (lcd.vram.read (start + y / 8 * 32 + x / 8))
  lcd.tileColour (tile + y % 8 * 2) (UInt8.ofNat (7 - x % 8))

/-! ## The ground -/

/-- Whether the window has a part in the current line. -/
def windowShown (lcd : Lcd) : Bool :=
  lcd.control.background && lcd.control.window && lcd.windowY.toNat ≤ lcd.line &&
    lcd.windowX.toNat ≤ 166

/-- The colour number of the ground in a column of the current line. -/
def ground (lcd : Lcd) (x : Nat) : UInt8 :=
  if !lcd.control.background then 0
  else if lcd.windowShown && lcd.windowX.toNat ≤ x + 7 then
    lcd.mapColour lcd.control.windowMap (x + 7 - lcd.windowX.toNat) lcd.windowLine
  else
    lcd.mapColour lcd.control.backgroundMap ((x + lcd.scrollX.toNat) % 256)
      ((lcd.line + lcd.scrollY.toNat) % 256)

/-! ## Objects -/

/-- A dot of a sprite: a colour number other than zero, and how it is shown. -/
structure ObjectDot where
  colour : UInt8
  secondPalette : Bool
  behind : Bool
  deriving DecidableEq, Inhabited

/-- Where the row of a sprite that lies on the current line starts in video memory. The height is the
current one, which may not be the one the sprite was chosen by. -/
def spriteRow (lcd : Lcd) (sprite : Sprite) : Nat :=
  let height := lcd.control.spriteHeight
  let tile := if lcd.control.tallSprites then sprite.tile &&& 0xFE else sprite.tile
  let offset : Int := lcd.line - sprite.top
  let offset := if sprite.flipY then height - 1 - offset else offset
  let row := (offset % height).toNat
  16 * (tile.toNat + row / 8) + row % 8 * 2

/-- The colour number of a sprite in one of its eight columns. -/
def spriteColour (lcd : Lcd) (sprite : Sprite) (column : Nat) : UInt8 :=
  lcd.tileColour (lcd.spriteRow sprite)
    (UInt8.ofNat (if sprite.flipX then column else 7 - column))

/-- Give a dot to a sprite, unless the dot lies off the screen or is taken, or the sprite has no
colour there. -/
def paintDot (lcd : Lcd) (sprite : Sprite) (row : Vector (Option ObjectDot) 160) (column : Nat) :
    Vector (Option ObjectDot) 160 :=
  let x := sprite.left + column
  if h : 0 ≤ x ∧ x.toNat < 160 then
    match row.get ⟨x.toNat, h.2⟩ with
    | some _ => row
    | none =>
      let colour := lcd.spriteColour sprite column
      if colour == 0 then row
      else row.set x.toNat (some ⟨colour, sprite.secondPalette, sprite.behind⟩) h.2
  else row

/-- Give a sprite the dots it can still have. -/
def paintSprite (lcd : Lcd) (row : Vector (Option ObjectDot) 160) (sprite : Sprite) :
    Vector (Option ObjectDot) 160 :=
  (List.range 8).foldl (lcd.paintDot sprite) row

/-- The dots of all sprites of the line. -/
def objects (lcd : Lcd) : Vector (Option ObjectDot) 160 :=
  let none := Vector.replicate 160 none
  if lcd.control.sprites then lcd.sprites.foldl lcd.paintSprite none else none

/-! ## The line -/

/-- The shade of a dot from its two layers. -/
def mix (lcd : Lcd) (ground : UInt8) (object : Option ObjectDot) : Shade :=
  match object with
  | some dot =>
    if dot.behind && ground != 0 then lcd.backgroundPalette.shade ground
    else (if dot.secondPalette then lcd.objectPalette1 else lcd.objectPalette0).shade dot.colour
  | none => lcd.backgroundPalette.shade ground

/-- The shades of the current line. -/
def row (lcd : Lcd) : Vector Shade 160 :=
  lcd.objects.mapIdx fun x object => lcd.mix (lcd.ground x) object

/-- **Draw the current line**, and count it if it showed the window. -/
def draw (lcd : Lcd) : Lcd :=
  let row := lcd.row
  let windowLine := if lcd.windowShown then lcd.windowLine + 1 else lcd.windowLine
  { lcd with screen := lcd.screen.setRow lcd.line row, windowLine := windowLine }

end Lcd
end DotMatrix
