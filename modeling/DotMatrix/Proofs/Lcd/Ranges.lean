import DotMatrix.Proofs.Lcd.Representation

/-! # Ranges of the LCD

The numbers that an LCD counts with and draws by, each with its bounds.  A program can write the registers
and memories of the LCD at any moment, and still none of these numbers is ever beyond them
(`Reachable.inRange`).  The position of a sprite is the one that was kept in the search; it comes from two
bytes of object memory.
-/
namespace DotMatrix

/-- The corner of a sprite lies where two bytes can put it. -/
structure Sprite.InRange (sprite : Sprite) : Prop where
  left : -8 ≤ sprite.left ∧ sprite.left ≤ 247
  top : -16 ≤ sprite.top ∧ sprite.top ≤ 239

theorem Sprite.inRange_ofOam (oam : Oam) (index : Nat) : (ofOam oam index).InRange := by
  have left := (oam.read (4 * index + 1)).toNat_lt
  have top := (oam.read (4 * index)).toNat_lt
  constructor <;> simp only [ofOam] <;> omega

/-- The sprites of a line are some of those in object memory. -/
theorem Sprite.inRange_of_mem_onLine {oam : Oam} {height line : Nat} {sprite : Sprite}
    (found : sprite ∈ onLine oam height line) : sprite.InRange := by
  rw [onLine, List.mem_mergeSort] at found
  have listed := (List.mem_filter.mp (List.mem_of_mem_take found)).1
  obtain ⟨index, -, rfl⟩ := List.mem_map.mp listed
  exact inRange_ofOam oam index

namespace Lcd

/-- The numbers that a line is drawn by keep to their ranges. -/
structure Drawable (lcd : Lcd) : Prop where
  line : lcd.line ≤ 153
  windowLine : lcd.windowLine ≤ 144
  few : lcd.sprites.length ≤ 10
  corners : ∀ sprite ∈ lcd.sprites, sprite.InRange

/-- **The numbers of an LCD keep to their ranges.** -/
structure InRange (lcd : Lcd) : Prop extends Drawable lcd where
  /-- Only between two frames is the line below the screen. -/
  visible : lcd.mode ≠ .vblank → lcd.line < 144
  clock : lcd.clock < lcd.mode.length

theorem Reachable.inRange {lcd : Lcd} (h : Reachable lcd) : lcd.InRange where
  line := by
    by_cases on : lcd.control.enabled = true
    · obtain ⟨finished, cycles, now⟩ := h.position on
      exact Nat.le_of_lt_succ now.last
    · rw [(h.resting (Bool.eq_false_iff.mpr on)).line]
      exact Nat.zero_le 153
  visible := h.sound.visible
  clock := by
    by_cases on : lcd.control.enabled = true
    · obtain ⟨finished, cycles, now⟩ := h.position on
      exact now.early
    · have rest := h.resting (Bool.eq_false_iff.mpr on)
      rw [rest.clock, rest.mode]
      decide
  windowLine := Nat.le_trans h.windowFits (linesDrawn_le h.sound.visible)
  few := h.length_sprites_le
  corners := by
    rcases h.sprites_eq with none | ⟨oam, height, line, found⟩
    · rw [none]
      exact fun _ member => absurd member List.not_mem_nil
    · rw [found]
      exact fun _ => Sprite.inRange_of_mem_onLine

end Lcd
end DotMatrix
