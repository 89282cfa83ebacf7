import DotMatrix.Proofs.Lcd.Pixel
import DotMatrix.Proofs.Lcd.Ranges
import DotMatrix.Proofs.Narrow.Width

/-! # Drawing in registers

A line drawn with addresses of sixteen bits, of which tiles that are numbered with a sign are computed in
thirty-two, with positions of sixteen bits and a sign, and with colours that choose among four shades.
-/
namespace DotMatrix.Narrow

/-! ## Work memory -/

section
variable {size : Nat} [@NeZero Nat Zero.ofOfNat0 size]

/-- The byte at an address of sixteen bits. -/
def readCell (ram : Ram size) (address : Nat) : Option UInt8 := do
  let address ← fit .word address
  ram.cells[address % size]?

/-- Store a byte at an address of sixteen bits. -/
def writeCell (ram : Ram size) (address : Nat) (value : UInt8) : Option (Ram size) := do
  let _ ← readCell ram address
  return ram.write address value

variable (ram : Ram size) {address : Nat} (small : address < 65536)
include small

theorem readCell_eq : readCell ram address = some (ram.read address) :=
  bind_of_eq (fit_word small) (Vector.getElem?_eq_getElem _)

theorem writeCell_eq (value : UInt8) : writeCell ram address value = some (ram.write address value) :=
  bind_of_eq (readCell_eq ram small) rfl

end

variable (lcd : Lcd)

/-! ## Tiles -/

/-- The colour number at a bit of a tile row. -/
def tileColour (row bit : Nat) : Option UInt8 := do
  let low ← readCell lcd.vram row
  let next ← fit .word (row + 1)
  let high ← readCell lcd.vram next
  let upper ← shiftRight high bit
  let lower ← shiftRight low bit
  return ((upper &&& 1) <<< 1) ||| (lower &&& 1)

/-- Where the tile with a number starts.  A signed number counts from the middle of the tiles. -/
def groundTile (number : UInt8) : Option Nat :=
  if lcd.control.unsignedTiles then fit .word (number.toNat * 16)
  else do
    let distance ← fitSigned .double (Lcd.signed number.toNat * 16)
    let start ← fitSigned .double (0x1000 + distance)
    return (start % 65536).toNat

/-- The colour number of a map at a place. -/
def mapColour (second : Bool) (x y : Nat) : Option UInt8 := do
  let down ← fit .word (y / 8 * 32)
  let line ← fit .word ((if second then 0x1C00 else 0x1800) + down)
  let place ← fit .word (line + x / 8)
  let number ← readCell lcd.vram place
  let tile ← groundTile lcd number
  let below ← fit .word (y % 8 * 2)
  let row ← fit .word (tile + below)
  let bit ← minus 7 (x % 8)
  tileColour lcd row bit

/-- The shade of a colour number. -/
def shade (palette : Palette) (colour : UInt8) : Option Shade := do
  let places ← fit .byte (colour.toNat * 2)
  let number ← shiftRight palette.bits places
  [Shade.white, .light, .dark, .black][(number &&& 0x03).toNat]?

section
variable {lcd}

theorem tileColour_eq {row bit : Nat} (inside : row + 1 < 65536) (short : bit < 8) :
    tileColour lcd row bit = some (lcd.tileColour row (UInt8.ofNat bit)) := by
  refine bind_of_eq (readCell_eq _ (by omega)) ?_
  refine bind_of_eq (fit_word inside) ?_
  refine bind_of_eq (readCell_eq _ inside) ?_
  exact bind_of_eq (shiftRight_of_lt short) (bind_of_eq (shiftRight_of_lt short) rfl)

theorem groundTile_lt (lcd : Lcd) (number : UInt8) : lcd.groundTile number < 0x1800 := by
  have small := number.toNat_lt
  unfold Lcd.groundTile
  split
  · omega
  · split <;> omega

theorem groundTile_eq (number : UInt8) : groundTile lcd number = some (lcd.groundTile number) := by
  have small := number.toNat_lt
  unfold groundTile Lcd.groundTile
  split
  · rw [Nat.mul_comm]
    exact fit_word (by omega)
  · have bounds : -128 ≤ Lcd.signed number.toNat ∧ Lcd.signed number.toNat < 128 := by
      unfold Lcd.signed
      split <;> omega
    refine bind_of_eq (fitSigned_double (by omega) (by omega)) ?_
    refine bind_of_eq (fitSigned_double (by omega) (by omega)) (congrArg some ?_)
    -- The start lies between 0x800 and 0x1800, and so the remainder is the start itself.
    unfold Lcd.signed
    split <;> omega

theorem mapColour_eq (second : Bool) {x y : Nat} (hx : x < 256) (hy : y < 256) :
    mapColour lcd second x y = some (lcd.mapColour second x y) := by
  have start : (if second then 0x1C00 else 0x1800 : Nat) ≤ 0x1C00 := by split <;> decide
  have tile := groundTile_lt lcd (lcd.vram.read ((if second then 0x1C00 else 0x1800) + y / 8 * 32 + x / 8))
  refine bind_of_eq (fit_word (by omega)) ?_
  refine bind_of_eq (fit_word (by omega)) ?_
  refine bind_of_eq (fit_word (by omega)) ?_
  refine bind_of_eq (readCell_eq _ (by omega)) ?_
  refine bind_of_eq (groundTile_eq _) ?_
  refine bind_of_eq (fit_word (by omega)) ?_
  refine bind_of_eq (fit_word (by omega)) ?_
  refine bind_of_eq (minus_of_le (by omega)) ?_
  exact tileColour_eq (by omega) (by omega)

/-- A colour number chooses one of the four shades of a palette. -/
theorem shade_eq (palette : Palette) {colour : UInt8} (four : colour.toNat < 4) :
    shade palette colour = some (palette.shade colour) := by
  -- All palettes and all colours, since what is looked up in the list has no bound of its own.
  have rows : ∀ bits, ∀ colour : Fin 4,
      shade ⟨bits⟩ (UInt8.ofNat colour) = some (Palette.shade ⟨bits⟩ (UInt8.ofNat colour)) :=
    forall_byte (by decide +kernel)
  have row := rows palette.bits ⟨colour.toNat, four⟩
  rwa [UInt8.ofNat_toNat] at row

end

/-! ## The ground -/

/-- The colour number of the ground in a column.  The background is drawn first, and the window over it
from the column on where it starts, which may lie off the screen. -/
def ground (x : Nat) : Option UInt8 :=
  if lcd.control.background then do
    let behind ← mapColour lcd lcd.control.backgroundMap ((x + lcd.scrollX.toNat) % 256)
      ((lcd.line + lcd.scrollY.toNat) % 256)
    if lcd.windowShown then
      let start ← fitSigned .word (lcd.windowX.toNat - 7)
      if start ≤ x then
        let column ← fitSigned .word (x - start)
        mapColour lcd lcd.control.windowMap column.toNat lcd.windowLine
      else return behind
    else return behind
  else return 0

/-! ## Objects -/

/-- Where the row of a sprite that lies on the current line starts. -/
def spriteRow (sprite : Sprite) : Option Nat := do
  let height := lcd.control.spriteHeight
  let tile := if lcd.control.tallSprites then sprite.tile &&& 0xFE else sprite.tile
  let offset ← fitSigned .word (lcd.line - sprite.top)
  let last ← fitSigned .word (height - 1)
  let offset ← (if sprite.flipY then fitSigned .word (last - offset) else some offset)
  let row := (offset % height).toNat
  let down ← fit .word (row % 8 * 2)
  return ((tile.toNat + row / 8) % 65536 * 16 % 65536 + down) % 65536

/-- Give a dot to a sprite of which the row starts at an address, if it can have it. -/
def paintDot (sprite : Sprite) (start : Nat) (row : Vector (Option Lcd.ObjectDot) 160) (column : Nat) :
    Option (Vector (Option Lcd.ObjectDot) 160) := do
  let x ← fitSigned .word (sprite.left + column)
  if inside : 0 ≤ x ∧ x.toNat < 160 then
    match row.get ⟨x.toNat, inside.2⟩ with
    | some _ => return row
    | none =>
      let bit ← (if sprite.flipX then some column else minus 7 column)
      let colour ← tileColour lcd start bit
      if colour == 0 then return row
      else return row.set x.toNat (some ⟨colour, sprite.secondPalette, sprite.behind⟩) inside.2
  else return row

/-- Give a sprite the dots it can still have. -/
def paintSprite (row : Vector (Option Lcd.ObjectDot) 160) (sprite : Sprite) :
    Option (Vector (Option Lcd.ObjectDot) 160) := do
  let start ← spriteRow lcd sprite
  (List.range 8).foldlM (paintDot lcd sprite start) row

/-- The dots of all sprites of the line, for which there is room for ten. -/
def objects : Option (Vector (Option Lcd.ObjectDot) 160) :=
  let none := Vector.replicate 160 none
  if lcd.control.sprites then do
    let _ ← upTo 10 lcd.sprites.length
    lcd.sprites.foldlM (paintSprite lcd) none
  else some none

/-! ## The line -/

/-- The shade of a dot from its two layers, of which the ground is drawn first. -/
def mix (ground : UInt8) (object : Option Lcd.ObjectDot) : Option Shade := do
  let behind ← shade lcd.backgroundPalette ground
  match object with
  | some dot =>
    if dot.behind && ground != 0 then return behind
    else shade (if dot.secondPalette then lcd.objectPalette1 else lcd.objectPalette0) dot.colour
  | none => return behind

/-- The shades of the current line. -/
def row : Option (Vector Shade 160) := do
  let objects ← objects lcd
  Vector.ofFnM fun x : Fin 160 => do
    let ground ← ground lcd x
    mix lcd ground objects[x]

/-- Draw the current line, if it lies on the screen, into its part of the picture of four bytes for each
dot. -/
def draw : Option Lcd :=
  if lcd.line < 144 then do
    let row ← row lcd
    let next ← fit .quad ((lcd.line + 1) * 160 * 4)
    let _ ← upTo Screen.byteCount next
    return { lcd with
      screen := lcd.screen.setRow lcd.line row
      windowLine := if lcd.windowShown then (lcd.windowLine + 1) % 256 else lcd.windowLine }
  else some lcd

section
variable {lcd}

theorem ground_eq (window : lcd.windowLine < 256) {x : Nat} (hx : x < 160) :
    ground lcd x = some (lcd.ground x) := by
  have small := lcd.windowX.toNat_lt
  unfold ground Lcd.ground
  cases lcd.control.background with
  | false => rfl
  | true =>
    refine bind_of_eq (mapColour_eq _ (Nat.mod_lt _ (by decide)) (Nat.mod_lt _ (by decide))) ?_
    cases lcd.windowShown with
    | false => rfl
    | true =>
      refine bind_of_eq (fitSigned_word (by omega) (by omega)) ?_
      by_cases reached : lcd.windowX.toNat ≤ x + 7
      · have column : ((x : Int) - (lcd.windowX.toNat - 7)).toNat = x + 7 - lcd.windowX.toNat := by omega
        rw [if_pos (by omega)]
        refine bind_of_eq (fitSigned_word (by omega) (by omega)) ?_
        rw [column, mapColour_eq _ (by omega) window]
        simp [reached]
      · rw [if_neg (by omega)]
        simp [reached]

/-- The two tiles of a sprite lie in the part of video memory that starts at zero. -/
theorem spriteRow_lt (lcd : Lcd) (sprite : Sprite) : lcd.spriteRow sprite < 0x1100 := by
  unfold Lcd.spriteRow Control.spriteHeight
  generalize (if lcd.control.tallSprites then sprite.tile &&& 0xFE else sprite.tile) = tile
  have small := tile.toNat_lt
  dsimp only
  split <;> split <;> omega

theorem spriteRow_eq {sprite : Sprite} (corner : sprite.InRange) (line : lcd.line ≤ 153) :
    spriteRow lcd sprite = some (lcd.spriteRow sprite) := by
  have height : 8 ≤ lcd.control.spriteHeight ∧ lcd.control.spriteHeight ≤ 16 := by
    unfold Control.spriteHeight
    split <;> decide
  have inside := spriteRow_lt lcd sprite
  obtain ⟨-, high, low⟩ := corner
  refine bind_of_eq (fitSigned_word (by omega) (by omega)) ?_
  refine bind_of_eq (fitSigned_word (by omega) (by omega)) ?_
  have turned : (if sprite.flipY then
      fitSigned .word ((lcd.control.spriteHeight : Int) - 1 - (lcd.line - sprite.top))
      else some ((lcd.line : Int) - sprite.top)) =
      some (if sprite.flipY then (lcd.control.spriteHeight : Int) - 1 - (lcd.line - sprite.top)
        else lcd.line - sprite.top) := by
    split
    · exact fitSigned_word (by omega) (by omega)
    · rfl
  refine bind_of_eq turned ?_
  refine bind_of_eq (fit_word (by omega)) (congrArg some ?_)
  unfold Lcd.spriteRow at inside ⊢
  dsimp only at inside ⊢
  omega

theorem paintDot_eq {sprite : Sprite} (corner : sprite.InRange)
    (row : Vector (Option Lcd.ObjectDot) 160) {column : Nat} (hc : column < 8) :
    paintDot lcd sprite (lcd.spriteRow sprite) row column = some (lcd.paintDot sprite row column) := by
  have inside := spriteRow_lt lcd sprite
  obtain ⟨⟨low, high⟩, -⟩ := corner
  refine bind_of_eq (fitSigned_word (by omega) (by omega)) ?_
  unfold Lcd.paintDot
  dsimp only
  split
  · rename_i shown
    cases row.get ⟨(sprite.left + column).toNat, shown.2⟩ with
    | some dot => rfl
    | none =>
      have bit : (if sprite.flipX then some column else minus 7 column) =
          some (if sprite.flipX then column else 7 - column) := by
        split
        · rfl
        · exact minus_of_le (by omega)
      have short : (if sprite.flipX then column else 7 - column) < 8 := by split <;> omega
      refine bind_of_eq bit (bind_of_eq (tileColour_eq (by omega) short) ?_)
      exact (apply_ite some _ _ _).symm
  · rfl

theorem objects_eq (h : lcd.Drawable) : objects lcd = some lcd.objects := by
  unfold objects Lcd.objects
  dsimp only
  split
  · refine bind_of_eq (upTo_of_le h.few) (foldlM_of_eq (fun row sprite member => ?_) _)
    have corner := h.corners sprite member
    refine bind_of_eq (spriteRow_eq corner h.line) (foldlM_of_eq (fun row column small => ?_) _)
    exact paintDot_eq corner row (List.mem_range.mp small)
  · rfl

/-- The dots of the sprites have one of four colours. -/
theorem colour_of_objects {x : Nat} (hx : x < 160) {dot : Lcd.ObjectDot}
    (shown : lcd.objects[x] = some dot) : dot.colour.toNat < 4 := by
  rw [Lcd.getElem_objects hx] at shown
  split at shown
  · obtain ⟨sprite, -, dots⟩ := List.exists_of_findSome?_eq_some shown
    rw [(Lcd.of_objectDot dots).1]
    exact Lcd.objectColour_lt sprite x
  · cases shown

theorem mix_eq {ground : UInt8} (four : ground.toNat < 4) {object : Option Lcd.ObjectDot}
    (dots : ∀ dot, object = some dot → dot.colour.toNat < 4) :
    mix lcd ground object = some (lcd.mix ground object) := by
  refine bind_of_eq (shade_eq _ four) ?_
  unfold Lcd.mix
  cases object with
  | none => rfl
  | some dot =>
    dsimp only
    split
    · rfl
    · exact shade_eq _ (dots dot rfl)

theorem row_eq (h : lcd.Drawable) : row lcd = some lcd.row := by
  have window : lcd.windowLine < 256 := Nat.lt_of_le_of_lt h.windowLine (by decide)
  -- The definition goes over the dots of the objects, the loop over the columns.
  have ordered : lcd.row = Vector.ofFn fun x : Fin 160 => lcd.mix (lcd.ground x) lcd.objects[x] := by
    unfold Lcd.row
    ext x hx
    rw [Vector.getElem_mapIdx, Vector.getElem_ofFn]
    rfl
  rw [ordered]
  refine bind_of_eq (objects_eq h) (ofFnM_of_eq fun x => ?_)
  refine bind_of_eq (ground_eq window x.isLt) ?_
  exact mix_eq (Lcd.ground_lt x) fun dot => colour_of_objects x.isLt

/-- **Drawing a line in registers is drawing it.** -/
theorem draw_eq (h : lcd.Drawable) (visible : lcd.line < 144) : draw lcd = some lcd.draw := by
  have window := h.windowLine
  unfold draw Lcd.draw
  rw [if_pos visible]
  refine bind_of_eq (row_eq h) ?_
  refine bind_of_eq (fit_quad (by omega)) ?_
  have ends : (lcd.line + 1) * 160 * 4 ≤ Screen.byteCount := by
    unfold Screen.byteCount Screen.width Screen.height
    omega
  refine bind_of_eq (upTo_of_le ends) ?_
  rw [Nat.mod_eq_of_lt (by omega)]
  rfl

end
end DotMatrix.Narrow
