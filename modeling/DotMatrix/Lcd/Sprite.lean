import DotMatrix.Lcd.Control

/-! # Sprites

Forty sprites are described in object memory, four bytes each. On each line the LCD looks for those
that reach the line and takes the first ten it finds. They are drawn in another order: from left to
right, and in the order of object memory where two start in the same column.
-/
namespace DotMatrix

/-! ## Object memory -/

/-- The 160 bytes that describe the sprites. -/
structure Oam where
  bytes : Vector UInt8 160

namespace Oam

/-- All bytes zero. -/
def zeroed : Oam := ⟨Vector.replicate 160 0⟩

instance : Inhabited Oam := ⟨zeroed⟩

/-- The byte at an address of which the last two hexadecimal digits count; there is nothing above
the 160th. -/
def read (oam : Oam) (address : Nat) : UInt8 :=
  if h : address % 256 < 160 then oam.bytes.get ⟨address % 256, h⟩ else 0xFF

/-- Store a byte; above the 160th it is lost. -/
def write (oam : Oam) (address : Nat) (value : UInt8) : Oam :=
  if h : address % 256 < 160 then ⟨oam.bytes.set (address % 256) value h⟩ else oam

end Oam

/-! ## The sprites of a line -/

/-- One sprite: where its upper left corner is, what it shows, and how. -/
structure Sprite where
  left : Int
  top : Int
  tile : UInt8
  flags : UInt8
  /-- Its number in object memory. -/
  index : Nat
  deriving DecidableEq, Inhabited

namespace Sprite

/-- The sprite with a number. The stored position is that of the corner, moved so that zero is just
off the screen. -/
def ofOam (oam : Oam) (index : Nat) : Sprite where
  left := (oam.read (4 * index + 1)).toNat - 8
  top := (oam.read (4 * index)).toNat - 16
  tile := oam.read (4 * index + 2)
  flags := oam.read (4 * index + 3)
  index := index

/-- Bit 7: shown only over colour 0 of the background. -/
def behind (sprite : Sprite) : Bool := sprite.flags &&& 0x80 != 0

/-- Bit 6: upside down. -/
def flipY (sprite : Sprite) : Bool := sprite.flags &&& 0x40 != 0

/-- Bit 5: left and right exchanged. -/
def flipX (sprite : Sprite) : Bool := sprite.flags &&& 0x20 != 0

/-- Bit 4: drawn with the second palette. -/
def secondPalette (sprite : Sprite) : Bool := sprite.flags &&& 0x10 != 0

/-- Whether a sprite of some height reaches a line. -/
def reaches (sprite : Sprite) (height line : Nat) : Bool :=
  sprite.top ≤ line && line < sprite.top + height

/-- Drawing order: the one further left goes first, and of two in one column the one with the lower
number. -/
def drawnBefore (first second : Sprite) : Bool :=
  first.left < second.left || (first.left == second.left && first.index ≤ second.index)

/-- **The sprites of a line**: the first ten in object memory that reach it, in drawing order. -/
def onLine (oam : Oam) (height line : Nat) : List Sprite :=
  let found := ((List.range 40).map (ofOam oam)).filter (·.reaches height line)
  (found.take 10).mergeSort drawnBefore

end Sprite
end DotMatrix
