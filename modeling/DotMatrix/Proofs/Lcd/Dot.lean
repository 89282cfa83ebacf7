import DotMatrix.Lcd.Drawing

/-! # The definition of a dot

What a dot of the current line should show, said dot by dot and in terms of addresses and numbers: no
layer is drawn before another, no dot is ever painted over, and the sprites stand in no particular
order.  `groundColour` is the background with the window over it, `objectColour` a single sprite,
`Owner` says which sprite a dot belongs to, and `dotShade` what it shows.  The first half of the proof
that drawing keeps to this, for tiles and ground, follows; objects are left to a module of their own.
-/
namespace DotMatrix
namespace Lcd

section
variable (lcd : Lcd)

/-- A bit of the control register. -/
def lcdc (bit : Nat) : Bool := lcd.control.bits.toNat.testBit bit

/-- The byte of video memory at an address of the processor. -/
def vramByte (address : Nat) : Nat := (lcd.readVram (UInt16.ofNat address)).toNat

/-- The colour number of a column, counted from the left, in the tile row of which the two bytes start
at an address.  The second byte has the high bits. -/
def rowColour (address column : Nat) : Nat :=
  2 * ((lcd.vramByte (address + 1)).testBit (7 - column)).toNat +
    ((lcd.vramByte address).testBit (7 - column)).toNat

/-! ## Background and window -/

/-- A byte read as a number from -128 to 127. -/
def signed (byte : Nat) : Int := if byte < 128 then byte else byte - 256

/-- Where a tile of the background or the window starts. -/
def tileAddress (number : Nat) : Nat :=
  if lcd.lcdc 4 then 0x8000 + 16 * number else (0x9000 + 16 * signed number).toNat

/-- The colour number at a place of one of the two maps. -/
def layerColour (second : Bool) (x y : Nat) : Nat :=
  let map := if second then 0x9C00 else 0x9800
  let number := lcd.vramByte (map + 32 * (y / 8) + x / 8)
  lcd.rowColour (lcd.tileAddress number + 2 * (y % 8)) (x % 8)

/-- **The ground**: colour 0 if it is switched off, the window where it reaches, and the background
elsewhere. -/
def groundColour (x : Nat) : Nat :=
  if lcd.lcdc 0 = false then 0
  else if lcd.lcdc 5 = true ∧ lcd.windowY.toNat ≤ lcd.line ∧ lcd.windowX.toNat ≤ 166 ∧
      lcd.windowX.toNat ≤ x + 7 then
    lcd.layerColour (lcd.lcdc 6) (x + 7 - lcd.windowX.toNat) lcd.windowLine
  else
    lcd.layerColour (lcd.lcdc 3) ((x + lcd.scrollX.toNat) % 256)
      ((lcd.line + lcd.scrollY.toNat) % 256)

/-! ## Objects -/

/-- Rows of a sprite, by the control register as it is now. -/
def objectHeight : Nat := if lcd.lcdc 2 then 16 else 8

/-- The row of its tiles that a sprite shows on the current line, counted from the other end if it is
upside down. -/
def objectRow (sprite : Sprite) : Nat :=
  let fromTop := ((lcd.line - sprite.top) % (lcd.objectHeight : Int)).toNat
  if sprite.flags.toNat.testBit 6 then lcd.objectHeight - 1 - fromTop else fromTop

/-- The first tile of a sprite; of a tall one the number is even. -/
def objectTile (sprite : Sprite) : Nat :=
  if lcd.objectHeight = 16 then sprite.tile.toNat / 2 * 2 else sprite.tile.toNat

/-- **The colour number of a sprite in a column of the screen**, zero where it does not reach. -/
def objectColour (sprite : Sprite) (x : Nat) : Nat :=
  let column : Int := x - sprite.left
  if 0 ≤ column ∧ column < 8 then
    lcd.rowColour (0x8000 + 16 * lcd.objectTile sprite + 2 * lcd.objectRow sprite)
      (if sprite.flags.toNat.testBit 5 then 7 - column.toNat else column.toNat)
  else 0

/-- Of the sprites selected for the line that have a colour in column `x`, the one that comes first
by column and number. -/
structure Foremost (x : Nat) (sprite : Sprite) : Prop where
  selected : sprite ∈ lcd.sprites
  coloured : lcd.objectColour sprite x ≠ 0
  first : ∀ other ∈ lcd.sprites, lcd.objectColour other x ≠ 0 →
    sprite.left < other.left ∨ sprite.left = other.left ∧ sprite.index ≤ other.index

/-- Which sprite a dot belongs to. -/
def Owner (x : Nat) : Option Sprite → Prop
  | some sprite => lcd.lcdc 1 = true ∧ lcd.Foremost x sprite
  | none => lcd.lcdc 1 = false ∨ ∀ sprite ∈ lcd.sprites, lcd.objectColour sprite x = 0

/-! ## Shades -/

/-- The shade number that a palette gives to a colour number. -/
def shadeNumber (palette : Palette) (colour : Nat) : Nat :=
  palette.bits.toNat / Nat.pow 4 colour % 4

/-- **What a dot shows**: its owner, unless that hides behind a ground that has a colour. -/
def dotShade (x : Nat) : Option Sprite → Nat
  | some sprite =>
    if sprite.flags.toNat.testBit 7 = false ∨ lcd.groundColour x = 0 then
      shadeNumber (if sprite.flags.toNat.testBit 4 then lcd.objectPalette1 else lcd.objectPalette0)
        (lcd.objectColour sprite x)
    else shadeNumber lcd.backgroundPalette (lcd.groundColour x)
  | none => shadeNumber lcd.backgroundPalette (lcd.groundColour x)

/-- The brightness of a shade number. -/
def grey (number : Nat) : UInt8 := [0xFF, 0xAA, 0x55, 0x00].getD number 0

end

/-! ## Tiles -/

theorem shifted_eq_testBit (byte : UInt8) (bit : Fin 8) :
    (byte >>> UInt8.ofNat bit.val) &&& 1 = UInt8.ofNat (byte.toNat.testBit bit).toNat := by
  revert byte bit
  exact forall_byte (by decide +kernel)

variable {lcd : Lcd}

/-- Video memory shows at the processor's addresses, over and over. -/
theorem vramByte_eq (offset : Nat) :
    lcd.vramByte (0x8000 + offset) = (lcd.vram.read offset).toNat := by
  have cell : (UInt16.ofNat (0x8000 + offset)).toNat % 0x2000 = offset % 0x2000 := by
    rw [UInt16.toNat_ofNat']
    omega
  unfold vramByte readVram
  rw [lcd.vram.read_congr cell]

theorem toNat_tileColour (row : Nat) {column : Nat} (h : column < 8) :
    (lcd.tileColour row (UInt8.ofNat (7 - column))).toNat = lcd.rowColour (0x8000 + row) column := by
  have bit := fun byte => shifted_eq_testBit byte ⟨7 - column, by omega⟩
  have joined : ∀ high low : Bool,
      ((UInt8.ofNat high.toNat <<< 1) ||| UInt8.ofNat low.toNat).toNat =
        2 * high.toNat + low.toNat := by
    decide
  unfold tileColour rowColour
  dsimp only at bit ⊢
  rw [bit, bit, joined, Nat.add_assoc, vramByte_eq, vramByte_eq]

theorem rowColour_lt (address column : Nat) : lcd.rowColour address column < 4 := by
  have bit : ∀ high low : Bool, 2 * high.toNat + low.toNat < 4 := by decide
  exact bit _ _

/-! ## The ground -/

theorem groundTile_eq (number : UInt8) :
    0x8000 + lcd.groundTile number = lcd.tileAddress number.toNat := by
  have small := number.toNat_lt
  have unsigned : lcd.control.unsignedTiles = lcd.lcdc 4 := flag_eq_testBit _ 4
  unfold groundTile tileAddress signed
  rw [unsigned]
  split
  · rfl
  · split <;> omega

theorem toNat_mapColour (second : Bool) (x y : Nat) :
    (lcd.mapColour second x y).toNat = lcd.layerColour second x y := by
  have place : lcd.vramByte ((if second then 0x9C00 else 0x9800) + 32 * (y / 8) + x / 8) =
      (lcd.vram.read ((if second then 0x1C00 else 0x1800) + y / 8 * 32 + x / 8)).toNat := by
    rw [← vramByte_eq]
    congr 1
    split <;> omega
  unfold mapColour layerColour
  dsimp only
  rw [toNat_tileColour _ (Nat.mod_lt x (by decide)), place, ← groundTile_eq]
  congr 1
  omega

theorem toNat_ground (x : Nat) : (lcd.ground x).toNat = lcd.groundColour x := by
  have background : lcd.control.background = lcd.lcdc 0 := flag_eq_testBit _ 0
  have window : lcd.control.window = lcd.lcdc 5 := flag_eq_testBit _ 5
  have windowMap : lcd.control.windowMap = lcd.lcdc 6 := flag_eq_testBit _ 6
  have backgroundMap : lcd.control.backgroundMap = lcd.lcdc 3 := flag_eq_testBit _ 3
  unfold ground groundColour windowShown
  rw [background, window, windowMap, backgroundMap]
  cases shown : lcd.lcdc 0 with
  | false => rfl
  | true =>
    simp only [Bool.not_true, Bool.false_eq_true, if_false, Bool.true_and, Bool.and_eq_true,
      decide_eq_true_eq, and_assoc, Bool.true_eq_false]
    split <;> exact toNat_mapColour _ _ _

/-! ## Shades -/

/-- Palettes by arithmetic. -/
theorem brightness_shade (palette : Palette) {colour : UInt8} (h : colour.toNat < 4) :
    (palette.shade colour).brightness = grey (shadeNumber palette colour.toNat) := by
  have rows : ∀ bits, ∀ colour : Fin 4, (Palette.shade ⟨bits⟩ (UInt8.ofNat colour)).brightness =
      grey (shadeNumber ⟨bits⟩ colour) :=
    forall_byte (by decide +kernel)
  have row := rows palette.bits ⟨colour.toNat, h⟩
  rwa [UInt8.ofNat_toNat] at row

end Lcd
end DotMatrix
