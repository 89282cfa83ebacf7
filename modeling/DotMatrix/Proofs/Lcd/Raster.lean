import DotMatrix.Lcd.Screen

/-! # The picture as bytes

The picture is handed out as one array of bytes.  Here its bytes are located: the four bytes of the
dot in column `x` of row `y` stand at offset `4 * (160 * y + x)`, and drawing one row anew changes the
bytes of that row only.
-/
namespace DotMatrix

/-! ## Equal pieces in a row -/

section
variable {α β : Type} {piece : α → List β} {size : Nat} (even : ∀ value, (piece value).length = size)
include even

/-- Equal pieces make a list as long as their number says. -/
theorem length_flatMap (values : List α) : (values.flatMap piece).length = size * values.length := by
  induction values with
  | nil => rfl
  | cons value values ih =>
    rw [List.flatMap_cons, List.length_append, ih, even, List.length_cons, Nat.mul_succ, Nat.add_comm]

/-- Whole pieces are dropped with the values they came from. -/
theorem drop_flatMap (values : List α) (count : Nat) :
    (values.flatMap piece).drop (size * count) = (values.drop count).flatMap piece := by
  induction count generalizing values with
  | zero => simp
  | succ count ih =>
    cases values with
    | nil => simp
    | cons value values =>
      rw [List.flatMap_cons, Nat.mul_succ, Nat.add_comm, ← List.drop_drop]
      rw [List.drop_left' (even value), ih, List.drop_succ_cons]

/-- A stretch within one piece is a stretch of that piece. -/
theorem take_drop_flatMap {values : List α} {index : Nat} (inside : index < values.length)
    {offset count : Nat} (fits : offset + count ≤ size) :
    ((values.flatMap piece).drop (size * index + offset)).take count =
      ((piece values[index]).drop offset).take count := by
  rw [← List.drop_drop, drop_flatMap even, List.drop_eq_getElem_cons inside, List.flatMap_cons]
  have long : offset ≤ (piece values[index]).length := by
    rw [even]
    omega
  rw [List.drop_append_of_le_length long, List.take_append_of_le_length]
  rw [List.length_drop, even]
  omega

end

namespace Screen

/-- The four bytes of a shade. -/
def dot (shade : Shade) : List UInt8 :=
  [shade.brightness, shade.brightness, shade.brightness, 0xFF]

theorem toList_pushDot (bytes : ByteArray) (shade : Shade) :
    (pushDot bytes shade).data.toList = bytes.data.toList ++ dot shade := by
  simp [pushDot, dot, ByteArray.data_push]

theorem toList_foldl_pushDot (bytes : ByteArray) (shades : List Shade) :
    (shades.foldl pushDot bytes).data.toList = bytes.data.toList ++ shades.flatMap dot := by
  induction shades generalizing bytes with
  | nil => simp
  | cons shade shades ih =>
    rw [List.foldl_cons, ih, toList_pushDot, List.append_assoc, List.flatMap_cons]

/-- The bytes of the picture, row after row. -/
theorem toList_rgba (screen : Screen) : screen.rgba.data.toList =
    screen.rows.toList.flatMap fun row => row.toList.flatMap dot := by
  have rows (bytes : ByteArray) (rows : List (Vector Shade 160)) :
      (rows.foldl (fun bytes row => row.foldl pushDot bytes) bytes).data.toList =
        bytes.data.toList ++ rows.flatMap fun row => row.toList.flatMap dot := by
    induction rows generalizing bytes with
    | nil => simp
    | cons row rows ih =>
      rw [List.foldl_cons, ih, ← Vector.foldl_toList, toList_foldl_pushDot, List.append_assoc,
        List.flatMap_cons]
  unfold rgba
  rw [← Vector.foldl_toList, rows]
  rfl

/-- The four bytes of the picture that show the dot in column `x` of row `y`. -/
def pixel (screen : Screen) (x y : Nat) : List UInt8 :=
  (screen.rgba.data.toList.drop (4 * (160 * y + x))).take 4

/-- The bytes of one row. -/
theorem length_flatMap_dot (row : Vector Shade 160) : (row.toList.flatMap dot).length = 640 := by
  have four : ∀ shade, (dot shade).length = 4 := fun _ => rfl
  rw [length_flatMap four, Vector.length_toList]

/-- **Where a dot is in the picture.** -/
theorem pixel_eq (screen : Screen) {x y : Nat} (hx : x < 160) (hy : y < 144) :
    screen.pixel x y = dot (screen.rows[y])[x] := by
  have inPicture : y < screen.rows.toList.length := by rwa [Vector.length_toList]
  have inRow : x < screen.rows.toList[y].toList.length := by rwa [Vector.length_toList]
  unfold pixel
  rw [toList_rgba, show 4 * (160 * y + x) = 640 * y + 4 * x by omega,
    take_drop_flatMap length_flatMap_dot inPicture (by omega : 4 * x + 4 ≤ 640)]
  -- The row is made of pieces once more, of four bytes each.
  have column := take_drop_flatMap (fun _ => rfl : ∀ shade, (dot shade).length = 4) inRow
    (by omega : 0 + 4 ≤ 4)
  rw [Nat.add_zero, List.drop_zero] at column
  rw [column]
  simp [dot]

/-- **Drawing a row** changes the dots of that row and of no other. -/
theorem pixel_setRow (screen : Screen) (row : Vector Shade 160) {line x y : Nat} (hl : line < 144)
    (hx : x < 160) (hy : y < 144) : (screen.setRow line row).pixel x y =
      if y = line then dot row[x] else screen.pixel x y := by
  rw [pixel_eq _ hx hy, pixel_eq _ hx hy]
  unfold setRow
  rw [dif_pos hl]
  by_cases same : y = line
  · subst same
    rw [if_pos rfl]
    simp
  · rw [if_neg same]
    congr 2
    exact Vector.getElem_set_ne hl hy fun h => same h.symm

end Screen
end DotMatrix
