import DotMatrix.Proofs.Cpu.Cycles
import DotMatrix.Proofs.Cpu.Operands

/-! # Footprints of the instructions

The published tables of the SM83 say how long each instruction is and which registers and which cells of
memory it may change, from the opcode alone (`Footprint.of`).  Beside them stands the footprint of each
instruction (`Instruction.footprint`), and the two agree, opcode by opcode (`Footprint.of_decode`).  That
the microcode keeps to it is left to `Confinement`.
-/
namespace DotMatrix

/-! ## Footprints -/

/-- Where in memory an instruction stores. -/
inductive StoreSite where
  | nowhere
  | atBc
  | atDe
  | atHl
  /-- In the page at 0xFF00, at the offset in the byte behind the opcode. -/
  | high
  /-- In the page at 0xFF00, at the offset in C. -/
  | highC
  /-- At the address in the word behind the opcode. -/
  | absolute
  /-- There and at the next address. -/
  | absoluteWord
  /-- The two bytes below the stack pointer. -/
  | stack
  deriving DecidableEq

namespace StoreSite

/-- The addresses, from the two bytes behind the opcode and from the registers before the instruction. -/
def cells (second third : UInt8) (regs : Registers) : StoreSite → List UInt16
  | nowhere => []
  | atBc => [regs.bc]
  | atDe => [regs.de]
  | atHl => [regs.hl]
  | high => [wordOf 0xFF second]
  | highC => [wordOf 0xFF regs.c]
  | absolute => [wordOf third second]
  | absoluteWord => [wordOf third second, wordOf third second + 1]
  | stack => [regs.sp - 1, regs.sp - 1 - 1]

end StoreSite

/-- How long an instruction is, and what it may change. -/
structure Footprint where
  /-- In bytes, the opcode included. -/
  length : Nat := 1
  registers : List ByteRegister := []
  flags : Bool := false
  sp : Bool := false
  site : StoreSite := .nowhere
  /-- It is a jump, a call or a return that is taken. -/
  elsewhere : Bool := false
  deriving DecidableEq

namespace Footprint
open Instruction (conditionHolds)

/-! ## The tables -/

/-- Lengths of the opcodes, sixteen to a row.  Zero stands where there is no instruction, and at the prefix
of the second page. -/
def lengthTable : List (List Nat) := [
  [1, 3, 1, 1, 1, 1, 2, 1, 3, 1, 1, 1, 1, 1, 2, 1],
  [2, 3, 1, 1, 1, 1, 2, 1, 2, 1, 1, 1, 1, 1, 2, 1],
  [2, 3, 1, 1, 1, 1, 2, 1, 2, 1, 1, 1, 1, 1, 2, 1],
  [2, 3, 1, 1, 1, 1, 2, 1, 2, 1, 1, 1, 1, 1, 2, 1],
  [1, 1, 1, 1, 1, 1, 1, 1, 1, 1, 1, 1, 1, 1, 1, 1],
  [1, 1, 1, 1, 1, 1, 1, 1, 1, 1, 1, 1, 1, 1, 1, 1],
  [1, 1, 1, 1, 1, 1, 1, 1, 1, 1, 1, 1, 1, 1, 1, 1],
  [1, 1, 1, 1, 1, 1, 1, 1, 1, 1, 1, 1, 1, 1, 1, 1],
  [1, 1, 1, 1, 1, 1, 1, 1, 1, 1, 1, 1, 1, 1, 1, 1],
  [1, 1, 1, 1, 1, 1, 1, 1, 1, 1, 1, 1, 1, 1, 1, 1],
  [1, 1, 1, 1, 1, 1, 1, 1, 1, 1, 1, 1, 1, 1, 1, 1],
  [1, 1, 1, 1, 1, 1, 1, 1, 1, 1, 1, 1, 1, 1, 1, 1],
  [1, 1, 3, 3, 3, 1, 2, 1, 1, 1, 3, 0, 3, 3, 2, 1],
  [1, 1, 3, 0, 3, 1, 2, 1, 1, 1, 3, 0, 3, 0, 2, 1],
  [2, 1, 1, 0, 0, 1, 2, 1, 2, 1, 3, 0, 0, 0, 2, 1],
  [2, 1, 1, 1, 0, 1, 2, 1, 2, 1, 3, 1, 0, 0, 2, 1]]

open ByteRegister in
/-- Byte registers that the opcodes change, sixteen to a row. -/
def registerTable : List (List (List ByteRegister)) := [
  [[], [b, c], [], [b, c], [b], [b], [b], [a], [], [h, l], [a], [b, c], [c], [c], [c], [a]],
  [[], [d, e], [], [d, e], [d], [d], [d], [a], [], [h, l], [a], [d, e], [e], [e], [e], [a]],
  [[], [h, l], [h, l], [h, l], [h], [h], [h], [a], [], [h, l], [a, h, l], [h, l], [l], [l], [l], [a]],
  [[], [], [h, l], [], [], [], [], [], [], [h, l], [a, h, l], [], [a], [a], [a], []],
  [[b], [b], [b], [b], [b], [b], [b], [b], [c], [c], [c], [c], [c], [c], [c], [c]],
  [[d], [d], [d], [d], [d], [d], [d], [d], [e], [e], [e], [e], [e], [e], [e], [e]],
  [[h], [h], [h], [h], [h], [h], [h], [h], [l], [l], [l], [l], [l], [l], [l], [l]],
  [[], [], [], [], [], [], [], [], [a], [a], [a], [a], [a], [a], [a], [a]],
  [[a], [a], [a], [a], [a], [a], [a], [a], [a], [a], [a], [a], [a], [a], [a], [a]],
  [[a], [a], [a], [a], [a], [a], [a], [a], [a], [a], [a], [a], [a], [a], [a], [a]],
  [[a], [a], [a], [a], [a], [a], [a], [a], [a], [a], [a], [a], [a], [a], [a], [a]],
  [[a], [a], [a], [a], [a], [a], [a], [a], [], [], [], [], [], [], [], []],
  [[], [b, c], [], [], [], [], [a], [], [], [], [], [], [], [], [a], []],
  [[], [d, e], [], [], [], [], [a], [], [], [], [], [], [], [], [a], []],
  [[], [h, l], [], [], [], [], [a], [], [], [], [], [], [], [], [a], []],
  [[a], [a], [a], [], [], [], [a], [], [h, l], [], [a], [], [], [], [], []]]

/-- Operations on bytes, additions to HL and SP, and POP AF. -/
def changesFlags (opcode : UInt8) : Bool :=
  opcode.toNat < 0x40 && opcode.toNat % 8 ∈ [4, 5, 7] ||
    0x80 ≤ opcode.toNat && opcode.toNat < 0xC0 ||
    0xC0 ≤ opcode.toNat && opcode.toNat % 8 = 6 ||
    opcode.toNat ∈ [0x09, 0x19, 0x29, 0x39, 0xE8, 0xF8, 0xF1]

/-- Jumps that are taken, the conditional ones if the condition `holds`. -/
def jumps (opcode : UInt8) (holds : Bool) : Bool :=
  opcode.toNat ∈ [0x18, 0xC3, 0xE9] ||
    holds && opcode.toNat ∈ [0x20, 0x28, 0x30, 0x38, 0xC2, 0xCA, 0xD2, 0xDA]

/-- Calls that are taken, those of a fixed address included. -/
def calls (opcode : UInt8) (holds : Bool) : Bool :=
  opcode.toNat ∈ [0xCD, 0xC7, 0xCF, 0xD7, 0xDF, 0xE7, 0xEF, 0xF7, 0xFF] ||
    holds && opcode.toNat ∈ [0xC4, 0xCC, 0xD4, 0xDC]

/-- Returns that are taken. -/
def returns (opcode : UInt8) (holds : Bool) : Bool :=
  opcode.toNat ∈ [0xC9, 0xD9] || holds && opcode.toNat ∈ [0xC0, 0xC8, 0xD0, 0xD8]

/-- Words loaded into SP, additions to it, and all that use the stack. -/
def changesSp (opcode : UInt8) (holds : Bool) : Bool :=
  opcode.toNat ∈ [0x31, 0x33, 0x3B, 0xE8, 0xF9] ||
    opcode.toNat ∈ [0xC1, 0xC5, 0xD1, 0xD5, 0xE1, 0xE5, 0xF1, 0xF5] ||
    calls opcode holds || returns opcode holds

/-- Where the opcodes store. -/
def siteOf (opcode : UInt8) (holds : Bool) : StoreSite :=
  match opcode.toNat with
  | 0x02 => .atBc
  | 0x12 => .atDe
  | 0x22 | 0x32 => .atHl
  | 0x34 | 0x35 | 0x36 => .atHl
  | 0x70 | 0x71 | 0x72 | 0x73 | 0x74 | 0x75 | 0x77 => .atHl
  | 0x08 => .absoluteWord
  | 0xE0 => .high
  | 0xE2 => .highC
  | 0xEA => .absolute
  | 0xC5 | 0xD5 | 0xE5 | 0xF5 => .stack
  | _ => if calls opcode holds then .stack else .nowhere

/-- The first page, where `holds` says whether the condition holds that the opcode names, if it names one. -/
def firstPage (opcode : UInt8) (holds : Bool) : Footprint where
  length := (lengthTable.getD (opcode.toNat / 16) []).getD (opcode.toNat % 16) 0
  registers := (registerTable.getD (opcode.toNat / 16) []).getD (opcode.toNat % 16) []
  flags := changesFlags opcode
  sp := changesSp opcode holds
  site := siteOf opcode holds
  elsewhere := jumps opcode holds || calls opcode holds || returns opcode holds

open ByteRegister in
/-- The second page: what a byte names there is tested, which changes the flags only, or changed, and of the
changes only the shifts, which come first, say something in the flags. -/
def secondPage (second : UInt8) : Footprint where
  length := 2
  registers := if second.toNat / 64 = 1 then []
    else [[b], [c], [d], [e], [h], [l], [], [a]].getD (second.toNat % 8) []
  flags := second.toNat < 0x80
  site := if second.toNat / 64 = 1 then .nowhere
    else if second.toNat % 8 = 6 then .atHl
    else .nowhere

/-- **The published footprints**: that of an opcode, where `second` is the byte after it. -/
def of (opcode second : UInt8) (flags : Flags) : Footprint :=
  if opcode = 0xCB then secondPage second else firstPage opcode (conditionHolds opcode flags)

end Footprint

/-! ## Footprints of instructions -/

namespace Place

/-- The register in which an operand lives, if it lives in one. -/
def registers : Place → List ByteRegister
  | register name => [name]
  | atHl => []

/-- The site of an operand that lives in memory. -/
def site : Place → StoreSite
  | register _ => .nowhere
  | atHl => .atHl

end Place

namespace Pair

/-- The halves of a pair. -/
def registers : Pair → List ByteRegister
  | bc => [.b, .c]
  | de => [.d, .e]
  | hl => [.h, .l]
  | sp => []

end Pair

namespace StackPair

/-- The halves of a pair, but for F. -/
def registers : StackPair → List ByteRegister
  | bc => [.b, .c]
  | de => [.d, .e]
  | hl => [.h, .l]
  | af => [.a]

end StackPair

namespace Pointer

/-- The registers that change when a pointer is used. -/
def registers : Pointer → List ByteRegister
  | bc | de => []
  | hlUp | hlDown => [.h, .l]

/-- The address in a pointer, as a site. -/
def site : Pointer → StoreSite
  | bc => .atBc
  | de => .atDe
  | hlUp | hlDown => .atHl

end Pointer

namespace ByteOperation

/-- A comparison leaves A alone. -/
def registers : ByteOperation → List ByteRegister
  | compare => []
  | _ => [.a]

end ByteOperation

namespace BitInstruction

/-- What an instruction of the second page may change. -/
def footprint : BitInstruction → Footprint
  | shift _ place =>
    { length := 2, registers := place.registers, flags := true, site := place.site }
  | test _ _ => { length := 2, flags := true }
  | clear _ place | set _ place =>
    { length := 2, registers := place.registers, site := place.site }

end BitInstruction

namespace Instruction

/-- What an instruction may change, where `second` is the byte after its opcode. -/
def footprint (second : UInt8) (flags : Flags) : Instruction → Footprint
  | nop | halt | disableInterrupts | enableInterrupts => {}
  | stop => { length := 2 }
  | bits => (BitInstruction.decode second).footprint
  | copy target _ => { registers := target.registers, site := target.site }
  | copyImmediate target =>
    { length := 2, registers := target.registers, site := target.site }
  | combine operation _ => { registers := operation.registers, flags := true }
  | combineImmediate operation => { length := 2, registers := operation.registers, flags := true }
  | increment place | decrement place =>
    { registers := place.registers, flags := true, site := place.site }
  | rotateA _ | decimalAdjust | complement => { registers := [.a], flags := true }
  | setCarry | flipCarry => { flags := true }
  | storeA pointer => { registers := pointer.registers, site := pointer.site }
  | loadA pointer => { registers := .a :: pointer.registers }
  | storeHigh => { length := 2, site := .high }
  | loadHigh => { length := 2, registers := [.a] }
  | storeHighC => { site := .highC }
  | loadHighC => { registers := [.a] }
  | storeAbsolute => { length := 3, site := .absolute }
  | loadAbsolute => { length := 3, registers := [.a] }
  | wordImmediate pair => { length := 3, registers := pair.registers, sp := pair = .sp }
  | addToHl _ => { registers := [.h, .l], flags := true }
  | incrementPair pair | decrementPair pair => { registers := pair.registers, sp := pair = .sp }
  | storeSp => { length := 3, site := .absoluteWord }
  | copyHlToSp => { sp := true }
  | addToSp => { length := 2, flags := true, sp := true }
  | copySpToHl => { length := 2, registers := [.h, .l], flags := true }
  | push _ => { sp := true, site := .stack }
  | pop pair => { registers := pair.registers, flags := pair = .af, sp := true }
  | jumpRelative => { length := 2, elsewhere := true }
  | jumpRelativeIf condition => { length := 2, elsewhere := condition.holds flags }
  | jump => { length := 3, elsewhere := true }
  | jumpIf condition => { length := 3, elsewhere := condition.holds flags }
  | jumpHl => { elsewhere := true }
  | call => { length := 3, sp := true, site := .stack, elsewhere := true }
  | callIf condition =>
    if condition.holds flags then
      { length := 3, sp := true, site := .stack, elsewhere := true }
    else { length := 3 }
  | ret | retInterrupt => { sp := true, elsewhere := true }
  | retIf condition =>
    { sp := condition.holds flags, elsewhere := condition.holds flags }
  | restart _ => { sp := true, site := .stack, elsewhere := true }

end Instruction

namespace Footprint
open Instruction

theorem secondPage_eq (second : UInt8) : secondPage second = (BitInstruction.decode second).footprint := by
  revert second
  exact forall_byte (by decide +kernel)

/-- Only the second page looks at the byte behind the opcode. -/
theorem footprint_of_ne_bits {instruction : Instruction} (h : instruction ≠ bits) (second : UInt8)
    (flags : Flags) : instruction.footprint second flags = instruction.footprint 0 flags := by
  cases instruction <;> first | contradiction | rfl

section
variable {flags other : Flags} (zero : flags.zero = other.zero) (carry : flags.carry = other.carry)
include zero carry

/-- The tables look at the flags that conditions name. -/
theorem of_congr (opcode second : UInt8) : of opcode second flags = of opcode second other := by
  simp only [of, conditionHolds_congr zero carry]

theorem footprint_congr (instruction : Instruction) (second : UInt8) :
    instruction.footprint second flags = instruction.footprint second other := by
  cases instruction <;> simp only [footprint, holds_congr zero carry]

end

/-- **The tables and the instructions agree**, opcode by opcode. -/
theorem of_decode {opcode : UInt8} {instruction : Instruction} (named : decode opcode = some instruction)
    (second : UInt8) (flags : Flags) : of opcode second flags = instruction.footprint second flags := by
  by_cases page : instruction = bits
  · subst page
    rw [eq_of_decode_bits named, of, if_pos rfl, secondPage_eq]
    rfl
  · have first : ∀ opcode, ∀ zero carry : Bool, ∀ i ∈ decode opcode, i ≠ bits →
        of opcode 0 ⟨zero, false, false, carry⟩ = i.footprint 0 ⟨zero, false, false, carry⟩ :=
      forall_byte (by decide +kernel)
    have unprefixed : opcode ≠ 0xCB := by
      rintro rfl
      exact page (Option.some.inj named).symm
    have same : of opcode second flags = of opcode 0 flags := by
      simp only [of, if_neg unprefixed]
    rw [same, footprint_of_ne_bits page, @of_congr flags ⟨flags.zero, false, false, flags.carry⟩ rfl rfl,
      @footprint_congr flags ⟨flags.zero, false, false, flags.carry⟩ rfl rfl]
    exact first opcode flags.zero flags.carry instruction named page

/-- Only STOP is longer than what is read of it. -/
theorem length_eq {instruction : Instruction} (noStop : instruction ≠ stop) (second : UInt8) (flags : Flags) :
    (instruction.footprint second flags).length = 1 + instruction.operandBytes := by
  cases instruction with
  | stop => contradiction
  | bits =>
    show (BitInstruction.decode second).footprint.length = 2
    cases BitInstruction.decode second <;> rfl
  | callIf condition =>
    dsimp only [footprint]
    split <;> rfl
  | _ => rfl

end Footprint
end DotMatrix
