import DotMatrix.Word

/-! # Instructions

What an opcode means. Most of the SM83's opcodes are made of an operation and one or two operands
that are encoded alike everywhere, so an instruction is a value of a small type and `decode` reads it
off the three fields of the opcode byte: its top two bits, and the two groups of three bits below.

Eleven bytes name no instruction (`decode_eq_none_iff`). One names a second page of instructions
that work on single bits; there every byte has a meaning.
-/
namespace DotMatrix

/-! ## Operands -/

/-- A byte register that an opcode can name. -/
inductive ByteRegister where
  | b
  | c
  | d
  | e
  | h
  | l
  | a
  deriving DecidableEq, Inhabited

/-- Where a byte operand lives: in a register, or in memory at the address in HL. -/
inductive Place where
  | register (name : ByteRegister)
  | atHl
  deriving DecidableEq, Inhabited

/-- A pair that takes part in word arithmetic. -/
inductive Pair where
  | bc
  | de
  | hl
  | sp
  deriving DecidableEq, Inhabited

/-- A pair that can be pushed and popped. -/
inductive StackPair where
  | bc
  | de
  | hl
  | af
  deriving DecidableEq, Inhabited

/-- An address held in a pair; HL can be stepped up or down after it is used. -/
inductive Pointer where
  | bc
  | de
  | hlUp
  | hlDown
  deriving DecidableEq, Inhabited

/-- A test of the zero or the carry flag. -/
inductive Condition where
  | notZero
  | zero
  | notCarry
  | carry
  deriving DecidableEq, Inhabited

/-! ## Operations -/

/-- An operation between A and a byte. -/
inductive ByteOperation where
  | add
  | addCarry
  | sub
  | subCarry
  | and
  | xor
  | or
  | compare
  deriving DecidableEq, Inhabited

/-- A rotation or shift of one byte. -/
inductive Shift where
  | rotateLeft
  | rotateRight
  | rotateLeftCarry
  | rotateRightCarry
  | left
  | rightSigned
  | swap
  | right
  deriving DecidableEq, Inhabited

/-- The rotations that have a short form for A. -/
inductive Rotation where
  | left
  | right
  | leftCarry
  | rightCarry
  deriving DecidableEq, Inhabited

/-- An instruction of the second page. -/
inductive BitInstruction where
  | shift (kind : Shift) (place : Place)
  | test (index : Nat) (place : Place)
  | clear (index : Nat) (place : Place)
  | set (index : Nat) (place : Place)
  deriving DecidableEq, Inhabited

/-- An instruction of the first page. Immediate operands follow the opcode in memory and are not part
of the value. -/
inductive Instruction where
  | nop
  | stop
  | halt
  | disableInterrupts
  | enableInterrupts
  /-- The next byte is an instruction of the second page. -/
  | bits
  /-- Copy a byte. -/
  | copy (target source : Place)
  | copyImmediate (target : Place)
  | combine (operation : ByteOperation) (source : Place)
  | combineImmediate (operation : ByteOperation)
  | increment (place : Place)
  | decrement (place : Place)
  | rotateA (rotation : Rotation)
  | decimalAdjust
  | complement
  | setCarry
  | flipCarry
  | storeA (pointer : Pointer)
  | loadA (pointer : Pointer)
  /-- A into the page at 0xFF00, at an immediate offset. -/
  | storeHigh
  | loadHigh
  /-- A into the page at 0xFF00, at the offset in C. -/
  | storeHighC
  | loadHighC
  | storeAbsolute
  | loadAbsolute
  | wordImmediate (pair : Pair)
  | addToHl (pair : Pair)
  | incrementPair (pair : Pair)
  | decrementPair (pair : Pair)
  | storeSp
  | copyHlToSp
  | addToSp
  | copySpToHl
  | push (pair : StackPair)
  | pop (pair : StackPair)
  /-- A jump relative to the next instruction. -/
  | jumpRelative
  | jumpRelativeIf (condition : Condition)
  | jump
  | jumpIf (condition : Condition)
  | jumpHl
  | call
  | callIf (condition : Condition)
  | ret
  | retIf (condition : Condition)
  | retInterrupt
  /-- A call of a fixed address, given divided by eight. -/
  | restart (slot : Nat)
  deriving DecidableEq, Inhabited

/-! ## Fields of an opcode -/

namespace Place

/-- The operand that a field of three bits names. -/
def ofField (field : Nat) : Place :=
  match field % 8 with
  | 0 => register .b
  | 1 => register .c
  | 2 => register .d
  | 3 => register .e
  | 4 => register .h
  | 5 => register .l
  | 6 => atHl
  | _ => register .a

end Place

namespace Pair

/-- The pair that a field of two bits names. -/
def ofField (field : Nat) : Pair :=
  match field % 4 with
  | 0 => bc
  | 1 => de
  | 2 => hl
  | _ => sp

end Pair

namespace StackPair

/-- The pair that a field of two bits names. -/
def ofField (field : Nat) : StackPair :=
  match field % 4 with
  | 0 => bc
  | 1 => de
  | 2 => hl
  | _ => af

end StackPair

namespace Pointer

/-- The pointer that a field of two bits names. -/
def ofField (field : Nat) : Pointer :=
  match field % 4 with
  | 0 => bc
  | 1 => de
  | 2 => hlUp
  | _ => hlDown

end Pointer

namespace Condition

/-- The test that a field of two bits names. -/
def ofField (field : Nat) : Condition :=
  match field % 4 with
  | 0 => notZero
  | 1 => zero
  | 2 => notCarry
  | _ => carry

end Condition

namespace ByteOperation

/-- The operation that a field of three bits names. -/
def ofField (field : Nat) : ByteOperation :=
  match field % 8 with
  | 0 => add
  | 1 => addCarry
  | 2 => sub
  | 3 => subCarry
  | 4 => and
  | 5 => xor
  | 6 => or
  | _ => compare

end ByteOperation

namespace Shift

/-- The shift that a field of three bits names. -/
def ofField (field : Nat) : Shift :=
  match field % 8 with
  | 0 => rotateLeft
  | 1 => rotateRight
  | 2 => rotateLeftCarry
  | 3 => rotateRightCarry
  | 4 => left
  | 5 => rightSigned
  | 6 => swap
  | _ => right

end Shift

/-! ## Decoding -/

namespace BitInstruction

/-- The instruction of the second page that a byte names. -/
def decode (opcode : UInt8) : BitInstruction :=
  let middle := opcode.toNat / 8 % 8
  let place := Place.ofField opcode.toNat
  match opcode.toNat / 64 with
  | 0 => shift (.ofField middle) place
  | 1 => test middle place
  | 2 => clear middle place
  | _ => set middle place

end BitInstruction

namespace Instruction

/-- Opcodes 0x00 to 0x3F: the last three bits choose the family. -/
def decodeFirst (middle last : Nat) : Instruction :=
  match last, middle with
  | 0, 0 => nop
  | 0, 1 => storeSp
  | 0, 2 => stop
  | 0, 3 => jumpRelative
  | 0, _ => jumpRelativeIf (.ofField middle)
  | 1, _ => if middle % 2 = 0 then wordImmediate (.ofField (middle / 2))
            else addToHl (.ofField (middle / 2))
  | 2, _ => if middle % 2 = 0 then storeA (.ofField (middle / 2)) else loadA (.ofField (middle / 2))
  | 3, _ => if middle % 2 = 0 then incrementPair (.ofField (middle / 2))
            else decrementPair (.ofField (middle / 2))
  | 4, _ => increment (.ofField middle)
  | 5, _ => decrement (.ofField middle)
  | 6, _ => copyImmediate (.ofField middle)
  | _, 0 => rotateA .left
  | _, 1 => rotateA .right
  | _, 2 => rotateA .leftCarry
  | _, 3 => rotateA .rightCarry
  | _, 4 => decimalAdjust
  | _, 5 => complement
  | _, 6 => setCarry
  | _, _ => flipCarry

/-- Opcodes 0xC0 to 0xFF; the only quarter with gaps. -/
def decodeLast (middle last : Nat) : Option Instruction :=
  match last, middle with
  | 0, 4 => storeHigh
  | 0, 5 => addToSp
  | 0, 6 => loadHigh
  | 0, 7 => copySpToHl
  | 0, _ => retIf (.ofField middle)
  | 1, 1 => ret
  | 1, 3 => retInterrupt
  | 1, 5 => jumpHl
  | 1, 7 => copyHlToSp
  | 1, _ => pop (.ofField (middle / 2))
  | 2, 4 => storeHighC
  | 2, 5 => storeAbsolute
  | 2, 6 => loadHighC
  | 2, 7 => loadAbsolute
  | 2, _ => jumpIf (.ofField middle)
  | 3, 0 => jump
  | 3, 1 => bits
  | 3, 6 => disableInterrupts
  | 3, 7 => enableInterrupts
  | 3, _ => none
  | 4, 0 => callIf .notZero
  | 4, 1 => callIf .zero
  | 4, 2 => callIf .notCarry
  | 4, 3 => callIf .carry
  | 4, _ => none
  | 5, 1 => call
  | 5, 3 => none
  | 5, 5 => none
  | 5, 7 => none
  | 5, _ => push (.ofField (middle / 2))
  | 6, _ => combineImmediate (.ofField middle)
  | _, _ => restart middle

/-- The instruction that an opcode names, if it names one. -/
def decode (opcode : UInt8) : Option Instruction :=
  let middle := opcode.toNat / 8 % 8
  let last := opcode.toNat % 8
  match opcode.toNat / 64 with
  | 0 => decodeFirst middle last
  | 1 => if middle = 6 ∧ last = 6 then halt else copy (.ofField middle) (.ofField last)
  | 2 => combine (.ofField middle) (.ofField last)
  | _ => decodeLast middle last

/-- The bytes that name no instruction. -/
def gaps : List UInt8 :=
  [0xD3, 0xDB, 0xDD, 0xE3, 0xE4, 0xEB, 0xEC, 0xED, 0xF4, 0xFC, 0xFD]

theorem decode_eq_none_iff (opcode : UInt8) : decode opcode = none ↔ opcode ∈ gaps := by
  revert opcode
  exact forall_byte (by decide +kernel)

end Instruction
end DotMatrix
