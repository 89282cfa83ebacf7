import DotMatrix.Proofs.Lcd.Representation
import DotMatrix.Proofs.MemoryMap.Calls

/-! # The LCD behind the memory map

The memory map reaches the LCD in two ways: a store may go to its registers or memories, and an M-cycle
moves it on by four T-cycles, perhaps with a byte copied to object memory.  So the LCD of a memory map that
was used in any way is one that was driven in some way (`Reachable.lcd`); and along calls that leave its
power switch alone it keeps its position in the frame, or stays dark.
-/
namespace DotMatrix

/-- A call that leaves the power switch of the LCD on, or off. -/
def Call.Leaves (on : Bool) : Call → Prop
  | .write address value => address = 0xFF40 → (Control.mk value).enabled = on
  | _ => True

namespace MemoryMap
variable {map : MemoryMap}

/-- **What an M-cycle does to the LCD.** -/
theorem lcd_tick (map : MemoryMap) : map.tick.lcd = (map.lcd.slice 4).1 ∨
    ∃ address value, map.tick.lcd = (map.lcd.slice 4).1.writeOam address value := by
  have moved : map.tickDevices.lcd = (map.lcd.slice 4).1 := congrArg Prod.fst map.lcd.advance_four
  rw [← moved, tick, tickDma]
  split
  · exact .inr ⟨_, _, rfl⟩
  · exact .inl rfl

/-! ## Any use -/

theorem reachable_lcd_call (h : Lcd.Reachable map.lcd) (made : Call) :
    Lcd.Reachable (map.call made).lcd := by
  cases made with
  | tick =>
    have moved := h.slice 4 (Nat.le_refl 4)
    rcases map.lcd_tick with ticked | ⟨address, value, ticked⟩
    · exact ticked ▸ moved
    · exact ticked ▸ moved.writeOam address value
  | write address value =>
    show Lcd.Reachable (map.write address value).lcd
    cases map.lcdStore address value with
    | none stored => exact stored ▸ h
    | video _ _ stored => exact stored ▸ h.writeVram address value
    | objects _ _ stored => exact stored ▸ h.writeOam address value
    | register _ stored => exact stored ▸ h.write address value
  | poll | read | acknowledge | resetDivider => exact h

theorem reachable_lcd_perform (h : Lcd.Reachable map.lcd) (operation : Operation) :
    Lcd.Reachable (map.perform operation).lcd := by
  cases operation with
  | call made => exact reachable_lcd_call h made
  | reset => exact .new
  | takeFrame => exact h.takeFrameReady
  | insert | changeCart | mapBoot | hold | takeSerial => exact h

theorem reachable_lcd_calls (h : Lcd.Reachable map.lcd) (made : List Call) :
    Lcd.Reachable (map.calls made).lcd := by
  induction made generalizing map with
  | nil => exact h
  | cons first more ih => exact ih (reachable_lcd_call h first)

/-- **The LCD of a memory map was driven like any other.** -/
theorem Reachable.lcd (h : Reachable map) : Lcd.Reachable map.lcd := by
  induction h with
  | powerOn => exact .new
  | afterBoot => exact .afterBoot .new
  | perform operation _ ih => exact reachable_lcd_perform ih operation

/-- Frames are finished in M-cycles only. -/
theorem frameReady_perform (unready : map.lcd.frameReady = false) {operation : Operation}
    (untimed : operation ≠ .call .tick) : (map.perform operation).lcd.frameReady = false := by
  cases operation with
  | call made =>
    cases made with
    | tick => exact absurd rfl untimed
    | write address value =>
      show (map.write address value).lcd.frameReady = false
      cases map.lcdStore address value with
      | none stored | video _ _ stored | objects _ _ stored => exact stored ▸ unready
      | register _ stored =>
        rw [stored, (map.lcd.frames_write address value).2]
        exact unready
    | poll | read | acknowledge | resetDivider => exact unready
  | reset | takeFrame => rfl
  | insert | changeCart | mapBoot | hold | takeSerial => exact unready

/-! ## Calls that leave the switch on -/

section
variable {finished cycles : Nat}

/-- A store that does not switch the LCD off leaves its position as it is, and an M-cycle moves it on. -/
theorem position_call (h : Lcd.Position finished cycles map.lcd) {made : Call}
    (kept : made.Leaves true) :
    Lcd.Position finished (cycles + 4 * [made].count .tick) (map.call made).lcd := by
  cases made with
  | tick =>
    have moved := h.slice (Nat.le_refl 4)
    rcases map.lcd_tick with ticked | ⟨address, value, ticked⟩
    · exact ticked ▸ moved
    · exact ticked ▸ moved.congr rfl rfl rfl rfl rfl
  | write address value =>
    show Lcd.Position finished cycles (map.write address value).lcd
    cases map.lcdStore address value with
    | none stored => exact stored ▸ h
    | video _ _ stored | objects _ _ stored => exact stored ▸ h.congr rfl rfl rfl rfl rfl
    | register _ stored =>
      have use : (Lcd.Use.register address value).KeepsOn := kept
      exact stored ▸ h.perform use
  | poll | read | acknowledge | resetDivider => exact h

/-- **Along calls that leave it on the LCD keeps its position**, and time passes with the M-cycles. -/
theorem position_calls (h : Lcd.Position finished cycles map.lcd) {made : List Call}
    (kept : ∀ call ∈ made, call.Leaves true) :
    Lcd.Position finished (cycles + 4 * made.count .tick) (map.calls made).lcd := by
  induction made generalizing map cycles with
  | nil => exact h
  | cons first more ih =>
    rw [List.forall_mem_cons] at kept
    have later := ih (position_call h kept.1) kept.2
    rw [Nat.add_assoc, ← Nat.mul_add, ← List.count_append] at later
    exact later

end

/-! ## Calls that leave the switch off -/

/-- The LCD is dark, and has finished so many frames. -/
structure Dark (frames : Nat) (map : MemoryMap) : Prop where
  off : map.lcd.control.enabled = false
  frames : map.lcd.frames = frames

theorem Dark.call {frames : Nat} (h : Dark frames map) {made : Call} (kept : made.Leaves false) :
    Dark frames (map.call made) := by
  cases made with
  | tick =>
    have still : (map.lcd.slice 4).1 = map.lcd := by rw [Lcd.slice_of_off h.off]
    rcases map.lcd_tick with ticked | ⟨address, value, ticked⟩
    · rw [still] at ticked
      exact ⟨ticked ▸ h.off, ticked ▸ h.frames⟩
    · rw [still] at ticked
      exact ⟨ticked ▸ h.off, ticked ▸ h.frames⟩
  | write address value =>
    cases map.lcdStore address value with
    | none stored => exact ⟨stored ▸ h.off, stored ▸ h.frames⟩
    | video _ _ stored | objects _ _ stored => exact ⟨stored ▸ h.off, stored ▸ h.frames⟩
    | register _ stored =>
      refine ⟨?_, ?_⟩
      · show (map.write address value).lcd.control.enabled = false
        rw [stored]
        by_cases control : address = 0xFF40
        · subst control
          rw [Lcd.control_write]
          exact kept rfl
        · rw [(map.lcd.alike_write control value).control]
          exact h.off
      · show (map.write address value).lcd.frames = frames
        rw [stored, (map.lcd.frames_write address value).1]
        exact h.frames
  | poll | read | acknowledge | resetDivider => exact ⟨h.off, h.frames⟩

/-- **Along calls that leave it off the LCD stays dark.** -/
theorem Dark.calls {frames : Nat} (h : Dark frames map) {made : List Call}
    (kept : ∀ call ∈ made, call.Leaves false) : Dark frames (map.calls made) := by
  induction made generalizing map with
  | nil => exact h
  | cons first more ih =>
    rw [List.forall_mem_cons] at kept
    exact ih (h.call kept.1) kept.2

end MemoryMap
end DotMatrix
