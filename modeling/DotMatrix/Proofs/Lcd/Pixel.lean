import DotMatrix.Proofs.Lcd.Dot
import DotMatrix.Proofs.Lcd.Raster
import DotMatrix.Proofs.Lcd.Reachable

/-! # Drawing a line, dot by dot

Drawing paints the sprites one over the other, each only where the ones before it left a dot free.
`getElem_objects` says what is left of that for a single dot: the first sprite in drawing order that
has a colour there.  In an LCD that was only ever driven, drawing order is the order of columns and
numbers, and so the dot belongs to the foremost sprite (`findSome?_objectDot`).  With the ground of
`Dot` and the bytes of `Raster` this makes the whole row what its definition says (`pixel_slice`).
-/
namespace DotMatrix
namespace Lcd
variable {lcd : Lcd}

/-! ## One sprite -/

theorem spriteHeight_eq : lcd.control.spriteHeight = lcd.objectHeight := by
  have tall : lcd.control.tallSprites = lcd.lcdc 2 := flag_eq_testBit _ 2
  rw [Control.spriteHeight, tall]
  rfl

theorem toNat_and_evenMask (byte : UInt8) : (byte &&& 0xFE).toNat = byte.toNat / 2 * 2 := by
  revert byte
  exact forall_byte (by decide +kernel)

theorem spriteRow_eq (sprite : Sprite) :
    lcd.spriteRow sprite = 16 * lcd.objectTile sprite + 2 * lcd.objectRow sprite := by
  have tall : lcd.control.tallSprites = lcd.lcdc 2 := flag_eq_testBit _ 2
  have flip : sprite.flipY = sprite.flags.toNat.testBit 6 := flag_eq_testBit _ 6
  have even := toNat_and_evenMask sprite.tile
  unfold spriteRow objectTile objectRow
  rw [spriteHeight_eq, tall, flip]
  unfold objectHeight
  -- The height is 8 or 16, so that the remainders are by numbers.
  cases lcd.lcdc 2 with
  | false => cases sprite.flags.toNat.testBit 6 <;> simp <;> omega
  | true => cases sprite.flags.toNat.testBit 6 <;> simp [even] <;> omega

theorem toNat_spriteColour (sprite : Sprite) {column : Nat} (h : column < 8) :
    (lcd.spriteColour sprite column).toNat =
      lcd.rowColour (0x8000 + 16 * lcd.objectTile sprite + 2 * lcd.objectRow sprite)
        (if sprite.flags.toNat.testBit 5 then 7 - column else column) := by
  have flip : sprite.flipX = sprite.flags.toNat.testBit 5 := flag_eq_testBit _ 5
  rw [Nat.add_assoc, ← spriteRow_eq]
  unfold spriteColour
  rw [flip]
  split
  · rw [← toNat_tileColour _ (by omega : 7 - column < 8)]
    congr 3
    omega
  · exact toNat_tileColour _ h

/-- The dot that a sprite has in one of its columns, if it has a colour there. -/
def dotOf (lcd : Lcd) (sprite : Sprite) (column : Nat) : Option ObjectDot :=
  if lcd.spriteColour sprite column == 0 then none
  else some ⟨lcd.spriteColour sprite column, sprite.secondPalette, sprite.behind⟩

/-- The dot that a sprite has in a column of the screen. -/
def objectDot (lcd : Lcd) (x : Nat) (sprite : Sprite) : Option ObjectDot :=
  if 0 ≤ (x : Int) - sprite.left ∧ (x : Int) - sprite.left < 8 then
    lcd.dotOf sprite ((x : Int) - sprite.left).toNat
  else none

theorem dotOf_eq_none_iff (sprite : Sprite) (column : Nat) :
    lcd.dotOf sprite column = none ↔ (lcd.spriteColour sprite column).toNat = 0 := by
  unfold dotOf
  rw [← UInt8.toNat_zero, UInt8.toNat_inj]
  split <;> simp_all

/-- A sprite has a dot exactly where it has a colour. -/
theorem objectDot_eq_none_iff (x : Nat) (sprite : Sprite) :
    lcd.objectDot x sprite = none ↔ lcd.objectColour sprite x = 0 := by
  unfold objectDot objectColour
  dsimp only
  split
  · rw [dotOf_eq_none_iff, toNat_spriteColour _ (by omega)]
  · simp

theorem of_objectDot {x : Nat} {sprite : Sprite} {dot : ObjectDot}
    (h : lcd.objectDot x sprite = some dot) :
    dot.colour.toNat = lcd.objectColour sprite x ∧
      dot.secondPalette = sprite.flags.toNat.testBit 4 ∧
      dot.behind = sprite.flags.toNat.testBit 7 := by
  unfold objectDot at h
  unfold objectColour
  dsimp only
  split at h
  · rename_i inside
    rw [if_pos inside, ← toNat_spriteColour _ (by omega)]
    unfold dotOf at h
    split at h
    · cases h
    · obtain rfl := Option.some.inj h
      exact ⟨rfl, flag_eq_testBit _ 4, flag_eq_testBit _ 7⟩
  · cases h

/-! ## Painting -/

/-- Painting one column of a sprite gives at most one dot away, if it is still free. -/
theorem getElem_paintDot (sprite : Sprite) (row : Vector (Option ObjectDot) 160) (column : Nat)
    {x : Nat} (hx : x < 160) : (lcd.paintDot sprite row column)[x] =
      if (x : Int) = sprite.left + column then row[x].or (lcd.dotOf sprite column) else row[x] := by
  unfold paintDot
  dsimp only
  by_cases inside : 0 ≤ sprite.left + column ∧ (sprite.left + column).toNat < 160
  · rw [dif_pos inside]
    by_cases here : (x : Int) = sprite.left + column
    · obtain rfl : x = (sprite.left + column).toNat := by omega
      rw [if_pos here]
      split
      · rename_i dot taken
        have taken : row[(sprite.left + column).toNat] = some dot := taken
        rw [taken]
        rfl
      · rename_i free
        have free : row[(sprite.left + column).toNat] = none := free
        rw [free, Option.none_or]
        unfold dotOf
        -- A sprite without a colour here leaves the dot free for the next one.
        split
        · exact free
        · exact Vector.getElem_set_self _
    · have elsewhere : (sprite.left + column).toNat ≠ x := by omega
      rw [if_neg here]
      split
      · rfl
      · split
        · rfl
        · exact Vector.getElem_set_ne _ hx elsewhere
  · rw [dif_neg inside, if_neg (by omega)]

/-- Painting columns from the left. -/
theorem getElem_paintColumns (sprite : Sprite) (row : Vector (Option ObjectDot) 160) (count : Nat)
    {x : Nat} (hx : x < 160) : ((List.range count).foldl (lcd.paintDot sprite) row)[x] =
      row[x].or (if 0 ≤ (x : Int) - sprite.left ∧ (x : Int) - sprite.left < count then
        lcd.dotOf sprite ((x : Int) - sprite.left).toNat else none) := by
  induction count with
  | zero =>
    rw [if_neg (by omega), Option.or_none]
    rfl
  | succ count ih =>
    rw [List.range_succ, List.foldl_append, List.foldl_cons, List.foldl_nil,
      getElem_paintDot _ _ _ hx, ih]
    by_cases here : (x : Int) = sprite.left + count
    · have column : ((x : Int) - sprite.left).toNat = count := by omega
      rw [if_pos here, if_neg (by omega), if_pos (by omega), Option.or_none, column]
    · rw [if_neg here]
      by_cases before : 0 ≤ (x : Int) - sprite.left ∧ (x : Int) - sprite.left < count
      · rw [if_pos before, if_pos (by omega)]
      · rw [if_neg before, if_neg (by omega)]

theorem getElem_paintSprite (sprite : Sprite) (row : Vector (Option ObjectDot) 160) {x : Nat}
    (hx : x < 160) : (lcd.paintSprite row sprite)[x] = row[x].or (lcd.objectDot x sprite) :=
  getElem_paintColumns sprite row 8 hx

/-- **What the painting of all sprites leaves of one dot**: the first in drawing order that has a
colour there. -/
theorem getElem_paintSprites (sprites : List Sprite) (row : Vector (Option ObjectDot) 160) {x : Nat}
    (hx : x < 160) : (sprites.foldl lcd.paintSprite row)[x] =
      row[x].or (sprites.findSome? (lcd.objectDot x)) := by
  induction sprites generalizing row with
  | nil => rw [List.foldl_nil, List.findSome?_nil, Option.or_none]
  | cons sprite sprites ih =>
    rw [List.foldl_cons, ih, getElem_paintSprite _ _ hx, Option.or_assoc, List.findSome?_cons]
    cases lcd.objectDot x sprite <;> rfl

theorem getElem_objects {x : Nat} (hx : x < 160) : lcd.objects[x] =
    if lcd.lcdc 1 then lcd.sprites.findSome? (lcd.objectDot x) else none := by
  have shown : lcd.control.sprites = lcd.lcdc 1 := flag_eq_testBit _ 1
  unfold objects
  dsimp only
  rw [shown]
  split
  · rw [getElem_paintSprites _ _ hx, Vector.getElem_replicate, Option.none_or]
  · exact Vector.getElem_replicate _

/-! ## Owners -/

/-- In strict drawing order the first sprite with a colour is the foremost one. -/
theorem findSome?_objectDot {x : Nat} {sprite : Sprite} {sprites : List Sprite}
    (ordered : sprites.Pairwise Sprite.Before) (selected : sprite ∈ sprites)
    (coloured : lcd.objectColour sprite x ≠ 0)
    (first : ∀ other ∈ sprites, lcd.objectColour other x ≠ 0 →
      sprite.left < other.left ∨ sprite.left = other.left ∧ sprite.index ≤ other.index) :
    sprites.findSome? (lcd.objectDot x) = lcd.objectDot x sprite := by
  induction sprites with
  | nil => cases selected
  | cons head rest ih =>
    obtain ⟨behind, ordered⟩ := List.pairwise_cons.mp ordered
    rw [List.findSome?_cons]
    cases dot : lcd.objectDot x head with
    | none =>
      have other : sprite ≠ head := by
        rintro rfl
        exact coloured ((objectDot_eq_none_iff x sprite).mp dot)
      exact ih ordered ((List.mem_cons.mp selected).resolve_left other) fun sprite member =>
        first sprite (List.mem_cons_of_mem head member)
    | some dot' =>
      rcases List.mem_cons.mp selected with rfl | later
      · exact dot.symm
      · -- A coloured sprite that stands before the foremost one cannot be.
        have seen : lcd.objectColour head x ≠ 0 := by
          rw [Ne, ← objectDot_eq_none_iff, dot]
          exact nofun
        have before := behind sprite later
        have after := first head List.mem_cons_self seen
        unfold Sprite.Before at before
        omega

/-- Every dot has an owner, or none at all. -/
theorem exists_owner (ordered : lcd.sprites.Pairwise Sprite.Before) (x : Nat) :
    ∃ owner, lcd.Owner x owner := by
  by_cases shown : lcd.lcdc 1 = true
  · cases found : lcd.sprites.findSome? (lcd.objectDot x) with
    | none =>
      refine ⟨none, .inr fun sprite member => ?_⟩
      exact (objectDot_eq_none_iff x sprite).mp (List.findSome?_eq_none_iff.mp found sprite member)
    | some dot =>
      obtain ⟨before, sprite, after, split, dots, blank⟩ := List.findSome?_eq_some_iff.mp found
      rw [split] at ordered
      refine ⟨some sprite, shown, ?_, ?_, ?_⟩
      · rw [split]
        exact List.mem_append_right _ List.mem_cons_self
      · rw [Ne, ← objectDot_eq_none_iff, dots]
        exact nofun
      · -- Those before it have no colour here, and those after it come later in drawing order.
        intro other member coloured
        rw [split] at member
        rcases List.mem_append.mp member with early | late
        · exact absurd ((objectDot_eq_none_iff x other).mp (blank other early)) coloured
        · rcases List.mem_cons.mp late with rfl | later
          · exact .inr ⟨rfl, Nat.le_refl _⟩
          · have behind := (List.pairwise_cons.mp (List.pairwise_append.mp ordered).2.1).1 other later
            unfold Sprite.Before at behind
            omega
  · exact ⟨none, .inl (by simpa using shown)⟩

/-- The layer of objects shows the owner of a dot. -/
theorem getElem_objects_of_owner (ordered : lcd.sprites.Pairwise Sprite.Before) {x : Nat}
    (hx : x < 160) {owner : Option Sprite} (owned : lcd.Owner x owner) :
    lcd.objects[x] = owner.bind (lcd.objectDot x) := by
  rw [getElem_objects hx]
  cases owner with
  | some sprite =>
    obtain ⟨shown, selected, coloured, first⟩ := owned
    rw [if_pos shown]
    exact findSome?_objectDot ordered selected coloured first
  | none =>
    rcases owned with hidden | blank
    · rw [hidden]
      rfl
    · split
      · exact List.findSome?_eq_none_iff.mpr fun sprite member =>
          (objectDot_eq_none_iff x sprite).mpr (blank sprite member)
      · rfl

/-! ## The line -/

theorem ground_lt (x : Nat) : (lcd.ground x).toNat < 4 := by
  rw [toNat_ground]
  unfold groundColour
  split
  · decide
  · split <;> exact rowColour_lt _ _

theorem objectColour_lt (sprite : Sprite) (x : Nat) : lcd.objectColour sprite x < 4 := by
  unfold objectColour
  dsimp only
  split
  · exact rowColour_lt _ _
  · decide

/-- Mixing the layers shows what the dot should show. -/
theorem brightness_row (ordered : lcd.sprites.Pairwise Sprite.Before) {x : Nat} (hx : x < 160)
    {owner : Option Sprite} (owned : lcd.Owner x owner) :
    lcd.row[x].brightness = grey (lcd.dotShade x owner) := by
  have under : (lcd.backgroundPalette.shade (lcd.ground x)).brightness =
      grey (shadeNumber lcd.backgroundPalette (lcd.groundColour x)) := by
    rw [brightness_shade _ (ground_lt x), toNat_ground]
  unfold row
  rw [Vector.getElem_mapIdx, getElem_objects_of_owner ordered hx owned]
  cases owner with
  | none => exact under
  | some sprite =>
    obtain ⟨-, -, coloured, -⟩ := owned
    rw [Ne, ← objectDot_eq_none_iff] at coloured
    obtain ⟨dot, has⟩ := Option.ne_none_iff_exists'.mp coloured
    obtain ⟨colour, second, behind⟩ := of_objectDot has
    have empty : (lcd.ground x != 0) = true ↔ lcd.groundColour x ≠ 0 := by
      rw [bne_iff_ne, ← toNat_ground, Ne, Ne, ← UInt8.toNat_inj, UInt8.toNat_zero]
    rw [Option.bind_some, has]
    unfold mix dotShade
    dsimp only
    by_cases front : sprite.flags.toNat.testBit 7 = false ∨ lcd.groundColour x = 0
    · have shown : ¬ (dot.behind && lcd.ground x != 0) = true := by
        rw [behind, Bool.and_eq_true, empty]
        rintro ⟨back, seen⟩
        rcases front with forward | clear
        · rw [back] at forward
          cases forward
        · exact seen clear
      have small : dot.colour.toNat < 4 := colour ▸ objectColour_lt sprite x
      rw [if_neg shown, if_pos front, brightness_shade _ small, second, colour]
    · have hidden : (dot.behind && lcd.ground x != 0) = true := by
        rw [not_or, Bool.not_eq_false] at front
        rw [behind, Bool.and_eq_true, empty]
        exact front
      rw [if_pos hidden, if_neg front, under]

/-- Drawing comes at the end of its mode. -/
theorem screen_turn_of_due (drawing : lcd.mode = .transfer) (due : 172 ≤ lcd.clock) :
    lcd.turn.1.screen = lcd.screen.setRow lcd.line lcd.row := by
  cases lcd.turning with
  | drawn _ _ turned =>
    rw [turned]
    rfl
  | stays early =>
    rw [drawing] at early
    exact absurd early (Nat.not_lt.mpr due)
  | entry mode | next mode | top mode | between mode | searched mode =>
    rw [drawing] at mode
    cases mode

/-- The slice in which the time for drawing is over draws the line. -/
theorem screen_slice_of_due (on : lcd.control.enabled = true) (drawing : lcd.mode = .transfer)
    {cycles : Nat} (due : 172 ≤ lcd.clock + cycles) :
    (lcd.slice cycles).1.screen = lcd.screen.setRow lcd.line lcd.row := by
  have turned := @screen_turn_of_due (lcd.later cycles) drawing due
  rw [slice_of_on on]
  exact (alike_compareLine _).screen.trans turned

/-- **A line is drawn as it is defined.**  In every reachable LCD, the slice in which a line is drawn
gives each dot of that line the shade that the definition gives its owner, whoever that is, as four
bytes; every dot has an owner or none; and the other lines stay as they are. -/
theorem pixel_slice (reachable : lcd.Reachable) (on : lcd.lcdc 7 = true)
    (drawing : lcd.mode = .transfer) {cycles : Nat} (due : 172 ≤ lcd.clock + cycles) :
    lcd.line < 144 ∧ ∀ x < 160,
      (∃ owner, lcd.Owner x owner) ∧
      (∀ owner, lcd.Owner x owner →
        (lcd.slice cycles).1.screen.pixel x lcd.line =
          let v := grey (lcd.dotShade x owner)
          [v, v, v, 0xFF]) ∧
      ∀ y < 144, y ≠ lcd.line →
        (lcd.slice cycles).1.screen.pixel x y = lcd.screen.pixel x y := by
  have sound := reachable.sound
  have line : lcd.line < 144 := sound.visible (by rw [drawing]; decide)
  have enabled : lcd.control.enabled = true := (flag_eq_testBit _ 7).trans on
  refine ⟨line, fun x hx => ⟨exists_owner sound.ordered x, fun owner owned => ?_, ?_⟩⟩
  · rw [screen_slice_of_due enabled drawing due, Screen.pixel_setRow _ _ line hx line, if_pos rfl]
    unfold Screen.dot
    rw [brightness_row sound.ordered hx owned]
  · intro y hy other
    rw [screen_slice_of_due enabled drawing due, Screen.pixel_setRow _ _ line hx hy, if_neg other]

/-- An LCD without background, about to draw its first line in the second brightest grey. -/
def plain : Lcd := ((({} : Lcd).write 0xFF40 0x80).write 0xFF47 0x01).advance 248 |>.1

theorem pixel_slice_plain : (plain.slice 4).1.screen.pixel 5 0 = [0xAA, 0xAA, 0xAA, 0xFF] := by
  have reachable : plain.Reachable := ((Reachable.new.write _ _).write _ _).advance 248
  have drawn := (pixel_slice reachable (by decide) (by decide) (by decide : 172 ≤ plain.clock + 4)).2
  exact (drawn 5 (by decide)).2.1 none (.inl (by decide))

end Lcd
end DotMatrix
