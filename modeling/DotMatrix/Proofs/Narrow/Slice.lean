import DotMatrix.Proofs.Narrow.Drawing

/-! # The course of a frame in registers

The LCD with a clock of sixteen bits, a line of eight, and room for ten sprites.  The search for them is the
loop that stores one after the other until there is no room left, where the definition filters a list.
-/
namespace DotMatrix.Narrow

/-! ## The search for sprites -/

/-- A byte of object memory, as a position that zero puts just off the screen. -/
def corner (oam : Oam) (place hidden : Nat) : Option Int := do
  let byte ← oam.bytes[place]?
  fitSigned .word (byte.toNat - hidden)

/-- Look at the sprite with a number, and store it behind those that were found if it reaches the line and
there is room. -/
def look (oam : Oam) (height line : Nat) (found : List Sprite) (index : Nat) : Option (List Sprite) :=
  if 10 ≤ found.length then some found
  else do
    let top ← corner oam (4 * index) 16
    let bottom ← fitSigned .word (top + height)
    if top ≤ line && line < bottom then
      let left ← corner oam (4 * index + 1) 8
      let tile ← oam.bytes[4 * index + 2]?
      let flags ← oam.bytes[4 * index + 3]?
      let _ ← upTo 10 (found.length + 1)
      return found ++ [{ left := left, top := top, tile := tile, flags := flags, index := index }]
    else return found

/-- Find the sprites of the current line. -/
def search (lcd : Lcd) : Option Lcd := do
  let found ← (List.range 40).foldlM (look lcd.oam lcd.control.spriteHeight lcd.line) []
  let _ ← upTo 10 found.length
  return { lcd with sprites := found.mergeSort Sprite.drawnBefore }

theorem getElem?_bytes (oam : Oam) {place : Nat} (inside : place < 160) :
    oam.bytes[place]? = some (oam.read place) := by
  have low : place % 256 < 160 := by omega
  have same : oam.read place = oam.bytes.get ⟨place % 256, low⟩ := dif_pos low
  rw [Vector.getElem?_eq_getElem inside, same]
  simp only [Nat.mod_eq_of_lt (Nat.lt_trans inside (by decide : 160 < 256))]
  rfl

theorem corner_eq (oam : Oam) {place : Nat} (inside : place < 160) {hidden : Nat} (short : hidden ≤ 16) :
    corner oam place hidden = some (((oam.read place).toNat : Int) - hidden) := by
  have small := (oam.read place).toNat_lt
  refine bind_of_eq (getElem?_bytes oam inside) ?_
  exact fitSigned_word (by omega) (by omega)

/-- A pass of the search keeps to what a filter would leave of the sprites so far. -/
theorem look_eq (oam : Oam) {height line : Nat} (low : height ≤ 16) {index : Nat} (inside : index < 40)
    (earlier : List Sprite) :
    look oam height line (earlier.take 10) index =
      some ((earlier ++ [Sprite.ofOam oam index].filter (·.reaches height line)).take 10) := by
  have small := (oam.read (4 * index)).toNat_lt
  unfold look
  split
  · rename_i full
    rw [List.length_take] at full
    rw [List.take_append_of_le_length (by omega)]
  · rename_i room
    rw [List.length_take] at room
    rw [List.take_of_length_le (by omega : earlier.length ≤ 10)]
    refine bind_of_eq (corner_eq oam (by omega) (by decide)) ?_
    refine bind_of_eq (fitSigned_word (by omega) (by omega)) ?_
    -- What is compared is whether the sprite in object memory reaches the line.
    show (if (Sprite.ofOam oam index).reaches height line then _ else _) = _
    by_cases reached : (Sprite.ofOam oam index).reaches height line = true
    · rw [if_pos reached, List.filter_eq_self.mpr (by simpa using reached), List.take_of_length_le]
      · refine bind_of_eq (corner_eq oam (by omega) (by decide)) ?_
        refine bind_of_eq (getElem?_bytes oam (by omega)) ?_
        refine bind_of_eq (getElem?_bytes oam (by omega)) ?_
        exact bind_of_eq (upTo_of_le (by omega)) rfl
      · rw [List.length_append, List.length_singleton]
        omega
    · rw [if_neg reached, List.filter_eq_nil_iff.mpr (by simpa using reached), List.append_nil,
        List.take_of_length_le (by omega)]
      rfl

theorem search_eq (lcd : Lcd) : search lcd = some lcd.search := by
  have height : lcd.control.spriteHeight ≤ 16 := by
    unfold Control.spriteHeight
    split <;> decide
  -- The sprites with the numbers below `count`, of which the first ten are found.
  have found (count : Nat) (inside : count ≤ 40) :
      (List.range count).foldlM (look lcd.oam lcd.control.spriteHeight lcd.line) [] =
        some ((((List.range count).map (Sprite.ofOam lcd.oam)).filter
          (·.reaches lcd.control.spriteHeight lcd.line)).take 10) := by
    induction count with
    | zero => rfl
    | succ count ih =>
      rw [List.range_succ, List.foldlM_append, List.map_append, List.filter_append]
      refine bind_of_eq (ih (by omega)) ?_
      exact bind_of_eq (look_eq lcd.oam height (by omega) _) rfl
  refine bind_of_eq (found 40 (Nat.le_refl 40)) (bind_of_eq (upTo_of_le ?_) rfl)
  rw [List.length_take]
  exact Nat.min_le_left 10 _

/-! ## The end of a slice -/

/-- Go on to the next mode if the time of the current one is over. -/
def turn (lcd : Lcd) : Option (Lcd × Bool) :=
  if lcd.clock < lcd.mode.length then some (lcd, false)
  else do
    let clock ← minus lcd.clock lcd.mode.length
    match lcd.mode with
    | .hblank =>
      let line ← fit .byte (lcd.line + 1)
      if line = 144 then
        return ({ lcd with
          clock := clock, line := line, mode := .vblank, frameReady := true, frames := lcd.frames + 1 }, true)
      else return ({ lcd with clock := clock, line := line, mode := .search }, false)
    | .vblank =>
      let line ← fit .byte (lcd.line + 1)
      if 153 < line then
        return ({ lcd with clock := clock, line := 0, windowLine := 0, mode := .search }, false)
      else return ({ lcd with clock := clock, line := line }, false)
    | .search =>
      let found ← search lcd
      return ({ found with clock := clock, mode := .transfer }, false)
    | .transfer =>
      let drawn ← draw lcd
      return ({ drawn with clock := clock, mode := .hblank }, false)

/-- One slice. -/
def slice (cycles : Nat) (lcd : Lcd) : Option (Lcd × List Interrupt) :=
  if lcd.control.enabled then do
    let clock ← fit .word (lcd.clock + cycles)
    let (lcd, entered) ← turn { lcd with clock := clock }
    return lcd.refresh entered
  else some (lcd, [])

section
variable {lcd : Lcd}

/-- The clock may have run over when the mode is turned. -/
theorem turn_eq (h : lcd.InRange) (cycles : Nat) :
    turn (lcd.later cycles) = some (lcd.later cycles).turn := by
  have line := h.line
  unfold turn Lcd.turn
  split
  · rfl
  · rename_i late
    refine bind_of_eq (minus_of_le (Nat.le_of_not_lt late)) ?_
    cases mode : lcd.mode with
    | hblank =>
      refine bind_of_eq (fit_byte (by dsimp only; omega)) ?_
      exact (apply_ite some _ _ _).symm
    | vblank =>
      refine bind_of_eq (fit_byte (by dsimp only; omega)) ?_
      exact (apply_ite some _ _ _).symm
    | search => exact bind_of_eq (search_eq _) rfl
    | transfer =>
      have visible := h.visible (by rw [mode]; decide)
      have drawable : (lcd.later cycles).Drawable := ⟨h.line, h.windowLine, h.few, h.corners⟩
      exact bind_of_eq (draw_eq drawable visible) rfl

theorem slice_eq (h : lcd.InRange) {cycles : Nat} (short : cycles ≤ 4) :
    slice cycles lcd = some (lcd.slice cycles) := by
  have clock := h.clock
  have length : lcd.mode.length ≤ 456 := by cases lcd.mode <;> decide
  unfold slice Lcd.slice
  split
  · exact bind_of_eq (fit_word (by omega)) (bind_of_eq (turn_eq h cycles) rfl)
  · rfl

end
end DotMatrix.Narrow
