import DotMatrix.Cpu.Microcode

/-! # The cycle counts of the SM83

The published table of M-cycles (`mcycles`), and the M-cycles that the accesses and the idle time of
each instruction add up to (`beats`).  Table and sums agree, opcode by opcode (`mcycles_eq_beats`).
That the microcode takes as long as the sums say is left to `Timing`.
-/
namespace DotMatrix

/-! ## The table -/

namespace Instruction

/-- M-cycles of each opcode, sixteen to a row, for conditional ones when they are not taken.  Zero
stands where there is no instruction, and at the prefix of the second page. -/
def mcycleTable : List (List Nat) := [
  [1, 3, 2, 2, 1, 1, 2, 1, 5, 2, 2, 2, 1, 1, 2, 1],
  [1, 3, 2, 2, 1, 1, 2, 1, 3, 2, 2, 2, 1, 1, 2, 1],
  [2, 3, 2, 2, 1, 1, 2, 1, 2, 2, 2, 2, 1, 1, 2, 1],
  [2, 3, 2, 2, 3, 3, 3, 1, 2, 2, 2, 2, 1, 1, 2, 1],
  [1, 1, 1, 1, 1, 1, 2, 1, 1, 1, 1, 1, 1, 1, 2, 1],
  [1, 1, 1, 1, 1, 1, 2, 1, 1, 1, 1, 1, 1, 1, 2, 1],
  [1, 1, 1, 1, 1, 1, 2, 1, 1, 1, 1, 1, 1, 1, 2, 1],
  [2, 2, 2, 2, 2, 2, 1, 2, 1, 1, 1, 1, 1, 1, 2, 1],
  [1, 1, 1, 1, 1, 1, 2, 1, 1, 1, 1, 1, 1, 1, 2, 1],
  [1, 1, 1, 1, 1, 1, 2, 1, 1, 1, 1, 1, 1, 1, 2, 1],
  [1, 1, 1, 1, 1, 1, 2, 1, 1, 1, 1, 1, 1, 1, 2, 1],
  [1, 1, 1, 1, 1, 1, 2, 1, 1, 1, 1, 1, 1, 1, 2, 1],
  [2, 3, 3, 4, 3, 4, 2, 4, 2, 4, 3, 0, 3, 6, 2, 4],
  [2, 3, 3, 0, 3, 4, 2, 4, 2, 4, 3, 0, 3, 0, 2, 4],
  [3, 3, 2, 0, 0, 4, 2, 4, 4, 1, 4, 0, 0, 0, 2, 4],
  [3, 3, 2, 1, 0, 4, 2, 4, 3, 2, 4, 1, 0, 0, 2, 4]]

/-- M-cycles that a conditional opcode takes on top when its condition holds: relative jumps, jumps,
calls and returns. -/
def mcyclesTaken (opcode : UInt8) : Nat :=
  if opcode.toNat ∈ [0x20, 0x28, 0x30, 0x38, 0xC2, 0xCA, 0xD2, 0xDA] then 1
  else if opcode.toNat ∈ [0xC4, 0xCC, 0xD4, 0xDC, 0xC0, 0xC8, 0xD0, 0xD8] then 3
  else 0

/-- The condition that a conditional opcode names. -/
def conditionHolds (opcode : UInt8) (flags : Flags) : Bool :=
  match opcode.toNat / 8 % 4 with
  | 0 => !flags.zero
  | 1 => flags.zero
  | 2 => !flags.carry
  | _ => flags.carry

/-- M-cycles of an opcode of the second page, the prefix included.  Operand six is in memory, where a
test only reads and everything else also writes. -/
def mcyclesBits (second : UInt8) : Nat :=
  if second.toNat % 8 ≠ 6 then 2
  else if second.toNat / 64 = 1 then 3
  else 4

/-- **The published cycle counts**: M-cycles of an opcode, where `second` is the byte after it. -/
def mcycles (opcode second : UInt8) (flags : Flags) : Nat :=
  if opcode = 0xCB then mcyclesBits second
  else (mcycleTable.getD (opcode.toNat / 16) []).getD (opcode.toNat % 16) 0 +
    if conditionHolds opcode flags then mcyclesTaken opcode else 0

end Instruction

/-! ## Counting M-cycles -/

namespace Place

/-- M-cycles of one access. -/
def beats : Place → Nat
  | register _ => 0
  | atHl => 1

theorem beats_le (place : Place) : place.beats ≤ 1 := by
  cases place
  · exact Nat.zero_le 1
  · exact Nat.le_refl 1

end Place

namespace BitInstruction

/-- M-cycles after the two fetches. -/
def beats : BitInstruction → Nat
  | shift _ place => place.beats + place.beats
  | test _ place => place.beats
  | clear _ place => place.beats + place.beats
  | set _ place => place.beats + place.beats

theorem beats_le (instruction : BitInstruction) : instruction.beats ≤ 2 := by
  cases instruction <;> rename_i place <;> have small := place.beats_le <;> dsimp only [beats] <;>
    omega

end BitInstruction

namespace Instruction

/-- M-cycles after the fetch of the opcode, where `second` is the next byte. -/
def beats (second : UInt8) (flags : Flags) : Instruction → Nat
  | nop | stop | halt | disableInterrupts | enableInterrupts => 0
  | bits => 1 + (BitInstruction.decode second).beats
  | copy target source => source.beats + target.beats
  | copyImmediate target => 1 + target.beats
  | combine _ source => source.beats
  | combineImmediate _ => 1
  | increment place | decrement place => place.beats + place.beats
  | rotateA _ | decimalAdjust | complement | setCarry | flipCarry => 0
  | storeA _ | loadA _ | storeHighC | loadHighC => 1
  | storeHigh | loadHigh => 2
  | storeAbsolute | loadAbsolute => 3
  | wordImmediate _ => 2
  | addToHl _ | incrementPair _ | decrementPair _ | copyHlToSp => 1
  | storeSp => 4
  | addToSp => 3
  | copySpToHl => 2
  | push _ => 3
  | pop _ => 2
  | jumpRelative => 2
  | jumpRelativeIf condition => 1 + if condition.holds flags then 1 else 0
  | jump => 3
  | jumpIf condition => 2 + if condition.holds flags then 1 else 0
  | jumpHl => 0
  | call => 5
  | callIf condition => 2 + if condition.holds flags then 3 else 0
  | ret | retInterrupt => 3
  | retIf condition => 1 + if condition.holds flags then 3 else 0
  | restart _ => 3

/-- A call is the longest instruction. -/
theorem beats_le (instruction : Instruction) (second : UInt8) (flags : Flags) :
    instruction.beats second flags ≤ 5 := by
  cases instruction with
  | bits =>
    have small := (BitInstruction.decode second).beats_le
    dsimp only [beats]
    omega
  | copy target source =>
    have small := target.beats_le
    have small' := source.beats_le
    dsimp only [beats]
    omega
  | copyImmediate place | combine _ place | increment place | decrement place =>
    have small := place.beats_le
    dsimp only [beats]
    omega
  | jumpRelativeIf | jumpIf | callIf | retIf =>
    dsimp only [beats]
    split <;> decide
  | _ => dsimp only [beats]; decide

/-- Only the second page looks at the byte after the opcode. -/
theorem beats_of_ne_bits {instruction : Instruction} (h : instruction ≠ bits) (second : UInt8)
    (flags : Flags) : instruction.beats second flags = instruction.beats 0 flags := by
  cases instruction <;> first | contradiction | rfl

theorem mcyclesBits_eq_beats (second : UInt8) :
    mcyclesBits second = 2 + (BitInstruction.decode second).beats := by
  revert second
  exact forall_byte (by decide +kernel)

theorem eq_of_decode_bits {opcode : UInt8} (named : decode opcode = some bits) : opcode = 0xCB := by
  have only : ∀ opcode, decode opcode = some bits → opcode = 0xCB := forall_byte (by decide +kernel)
  exact only opcode named

section
variable {flags other : Flags} (zero : flags.zero = other.zero) (carry : flags.carry = other.carry)
include zero carry

theorem conditionHolds_congr (opcode : UInt8) : conditionHolds opcode flags = conditionHolds opcode other := by
  unfold conditionHolds
  rw [zero, carry]

theorem holds_congr (condition : Condition) : condition.holds flags = condition.holds other := by
  cases condition <;> simp only [Condition.holds, zero, carry]

/-- Of the flags the table looks at two. -/
theorem mcycles_congr (opcode second : UInt8) :
    mcycles opcode second flags = mcycles opcode second other := by
  simp only [mcycles, conditionHolds_congr zero carry]

theorem beats_congr (instruction : Instruction) (second : UInt8) :
    instruction.beats second flags = instruction.beats second other := by
  cases instruction <;> simp only [beats, holds_congr zero carry]

end

/-- **The table and the sums agree**, opcode by opcode. -/
theorem mcycles_eq_beats {opcode : UInt8} {instruction : Instruction}
    (named : decode opcode = some instruction) (second : UInt8) (flags : Flags) :
    mcycles opcode second flags = 1 + instruction.beats second flags := by
  by_cases page : instruction = bits
  · subst page
    rw [eq_of_decode_bits named, mcycles, if_pos rfl, mcyclesBits_eq_beats, beats]
    omega
  · have first : ∀ opcode, ∀ zero carry : Bool, ∀ i ∈ decode opcode, i ≠ bits →
        mcycles opcode 0 ⟨zero, false, false, carry⟩ =
          1 + i.beats 0 ⟨zero, false, false, carry⟩ :=
      forall_byte (by decide +kernel)
    have other : opcode ≠ 0xCB := by
      rintro rfl
      exact page (Option.some.inj named).symm
    have same : mcycles opcode second flags = mcycles opcode 0 flags := by
      simp only [mcycles, if_neg other]
    rw [same, beats_of_ne_bits page]
    rw [@mcycles_congr flags ⟨flags.zero, false, false, flags.carry⟩ rfl rfl,
      @beats_congr flags ⟨flags.zero, false, false, flags.carry⟩ rfl rfl]
    exact first opcode flags.zero flags.carry instruction named page

end Instruction

end DotMatrix
