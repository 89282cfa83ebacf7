/-! # The screen

160 by 144 dots in four shades of grey. The picture is kept as shades; as bytes it is four per dot,
three equal colour parts and full opacity, row after row.
-/
namespace DotMatrix

/-- The four shades, brightest first. -/
inductive Shade where
  | white
  | light
  | dark
  | black
  deriving DecidableEq, Inhabited

namespace Shade

/-- The shade with a number from 0 to 3; higher numbers count modulo four. -/
def ofNumber (number : UInt8) : Shade :=
  match number &&& 0x03 with
  | 0 => white
  | 1 => light
  | 2 => dark
  | _ => black

/-- Brightness of red, green and blue. -/
def brightness : Shade → UInt8
  | white => 0xFF
  | light => 0xAA
  | dark => 0x55
  | black => 0x00

end Shade

/-- The picture, row by row from the top. -/
structure Screen where
  rows : Vector (Vector Shade 160) 144

namespace Screen

/-- Dots in a row. -/
def width : Nat := 160

/-- Rows. -/
def height : Nat := 144

/-- Bytes of the picture. -/
def byteCount : Nat := width * height * 4

/-- A white picture. -/
def blank : Screen := ⟨Vector.replicate 144 (Vector.replicate 160 .white)⟩

instance : Inhabited Screen := ⟨blank⟩

/-- Draw one row anew; a row below the picture is not drawn. -/
def setRow (screen : Screen) (line : Nat) (row : Vector Shade 160) : Screen :=
  if h : line < 144 then ⟨screen.rows.set line row h⟩ else screen

/-- Add the four bytes of a dot. -/
def pushDot (bytes : ByteArray) (shade : Shade) : ByteArray :=
  let part := shade.brightness
  (((bytes.push part).push part).push part).push 0xFF

/-- The picture as bytes. -/
def rgba (screen : Screen) : ByteArray :=
  screen.rows.foldl (fun bytes row => row.foldl pushDot bytes) (.emptyWithCapacity byteCount)

end Screen
end DotMatrix
