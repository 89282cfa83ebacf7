import DotMatrix.Cpu.Microcode
import DotMatrix.Proofs.Narrow.Width

/-! # The processor in registers

Bytes are added in sixteen bits and subtracted in sixteen bits with a sign, where the true sum and the true
difference fit.  A bit is named by three bits of an opcode, and so never lies outside of a byte.  None of
this depends on the state that the processor is in: there is a result for all operands and all opcodes.
-/
namespace DotMatrix.Narrow

/-! ## Arithmetic -/

/-- Addition of two bytes and a carry. -/
def add (a b : UInt8) (carry : Bool) : Option (UInt8 × Flags) := do
  let bytes ← fit .word (a.toNat + b.toNat)
  let sum ← fit .word (bytes + carry.toNat)
  let halves ← fit .word (a.toNat % 16 + b.toNat % 16)
  let half ← fit .word (halves + carry.toNat)
  let result := UInt8.ofNat sum
  return (result, { zero := result == 0, halfCarry := 15 < half, carry := 255 < sum })

/-- Subtraction of a byte and a borrow. -/
def sub (a b : UInt8) (carry : Bool) : Option (UInt8 × Flags) := do
  let bytes ← fitSigned .word ((a.toNat : Int) - b.toNat)
  let difference ← fitSigned .word (bytes - carry.toNat)
  let halves ← fitSigned .word (((a.toNat % 16 : Nat) : Int) - (b.toNat % 16 : Nat))
  let half ← fitSigned .word (halves - carry.toNat)
  let result := UInt8.ofNat (difference % 256).toNat
  return (result, { zero := result == 0, subtract := true, halfCarry := half < 0, carry := difference < 0 })

/-- Addition of two words. -/
def addWord (a b : UInt16) (flags : Flags) : Option (UInt16 × Flags) := do
  let half ← fit .word (a.toNat % 4096 + b.toNat % 4096)
  return (a + b, { zero := flags.zero, halfCarry := 4095 < half, carry := 65536 ≤ a.toNat + b.toNat })

/-- A word plus a signed byte. -/
def addSigned (word : UInt16) (offset : UInt8) : Option (UInt16 × Flags) := do
  let half ← fit .word (word.toNat % 16 + offset.toNat % 16)
  let low ← fit .word (word.toNat % 256 + offset.toNat)
  return (word + signExtend offset, { halfCarry := 15 < half, carry := 255 < low })

/-- An operation between A and a byte. -/
def combine (operation : ByteOperation) (a value : UInt8) (carry : Bool) : Option (UInt8 × Flags) :=
  match operation with
  | .add => add a value false
  | .addCarry => add a value carry
  | .sub => sub a value false
  | .subCarry => sub a value carry
  | .compare => do
    let (_, flags) ← sub a value false
    return (a, flags)
  | other => some (other.apply a value carry)

/-- The byte with only one bit set, which is a one shifted by fewer places than a byte has. -/
def bit (index : Nat) : Option UInt8 := if index < 8 then some (1 <<< UInt8.ofNat index) else none

/-- Test one bit. -/
def testBit (index : Nat) (value : UInt8) (flags : Flags) : Option Flags := do
  let mask ← bit index
  return { zero := value &&& mask == 0, halfCarry := true, carry := flags.carry }

theorem add_eq (a b : UInt8) (carry : Bool) : add a b carry = some (Arithmetic.add a b carry) := by
  have one : carry.toNat ≤ 1 := carry.toNat_le
  have small := a.toNat_lt
  have little := b.toNat_lt
  refine bind_of_eq (fit_word (by omega)) (bind_of_eq (fit_word (by omega)) ?_)
  exact bind_of_eq (fit_word (by omega)) (bind_of_eq (fit_word (by omega)) rfl)

theorem sub_eq (a b : UInt8) (carry : Bool) : sub a b carry = some (Arithmetic.sub a b carry) := by
  have one : carry.toNat ≤ 1 := carry.toNat_le
  have small := a.toNat_lt
  have little := b.toNat_lt
  -- The definition adds 512, which keeps the difference above zero and is gone in the byte.
  have byte : UInt8.ofNat (((a.toNat : Int) - b.toNat - carry.toNat) % 256).toNat =
      UInt8.ofNat (a.toNat + 512 - (b.toNat + carry.toNat)) := by
    apply UInt8.toNat_inj.mp
    rw [UInt8.toNat_ofNat', UInt8.toNat_ofNat']
    omega
  refine bind_of_eq (fitSigned_word (by omega) (by omega)) ?_
  refine bind_of_eq (fitSigned_word (by omega) (by omega)) ?_
  refine bind_of_eq (fitSigned_word (by omega) (by omega)) ?_
  refine bind_of_eq (fitSigned_word (by omega) (by omega)) ?_
  have half : (((a.toNat % 16 : Nat) : Int) - (b.toNat % 16 : Nat) - carry.toNat < 0) ↔
      a.toNat % 16 < b.toNat % 16 + carry.toNat := by omega
  have whole : ((a.toNat : Int) - b.toNat - carry.toNat < 0) ↔ a.toNat < b.toNat + carry.toNat := by omega
  unfold Arithmetic.sub
  simp only [byte, half, whole]
  rfl

theorem addWord_eq (a b : UInt16) (flags : Flags) :
    addWord a b flags = some (Arithmetic.addWord a b flags) :=
  bind_of_eq (fit_word (by omega)) rfl

theorem addSigned_eq (word : UInt16) (offset : UInt8) :
    addSigned word offset = some (Arithmetic.addSigned word offset) := by
  have small := offset.toNat_lt
  exact bind_of_eq (fit_word (by omega)) (bind_of_eq (fit_word (by omega)) rfl)

theorem combine_eq (operation : ByteOperation) (a value : UInt8) (carry : Bool) :
    combine operation a value carry = some (operation.apply a value carry) := by
  cases operation with
  | add => exact add_eq a value false
  | addCarry => exact add_eq a value carry
  | sub => exact sub_eq a value false
  | subCarry => exact sub_eq a value carry
  | compare => exact bind_of_eq (sub_eq a value false) rfl
  | and | xor | or => rfl

theorem bit_eq {index : Nat} (inside : index < 8) : bit index = some (bitMask index) := by
  have all : ∀ index : Fin 8, bit index = some (bitMask index) := by decide
  exact all ⟨index, inside⟩

theorem testBit_eq {index : Nat} (inside : index < 8) (value : UInt8) (flags : Flags) :
    testBit index value flags = some (Arithmetic.testBit index value flags) := by
  have mask : ∀ value : UInt8, ∀ index : Fin 8,
      (value &&& bitMask index == 0) = !hasBit value index :=
    forall_byte (by decide +kernel)
  refine bind_of_eq (bit_eq inside) ?_
  rw [mask value ⟨index, inside⟩]
  rfl

/-! ## Interrupts -/

/-- Where the handler of a source starts. -/
def vector (source : Interrupt) : Option UInt16 := do
  let distance ← fit .word (8 * source.index)
  let address ← fit .word (0x40 + distance)
  return UInt16.ofNat address

/-- The first source in order of priority whose bit is set. -/
def highest? (mask : UInt8) : Option (Option Interrupt) :=
  Interrupt.all.findM? fun source => do
    let bit ← bit source.index
    return mask &&& bit != 0

/-- Set the request of one source. -/
def request (ints : Interrupts) (source : Interrupt) : Option Interrupts := do
  let bit ← bit source.index
  return { ints with requested := ints.requested ||| bit }

/-- Set the requests of several sources. -/
def requestAll (ints : Interrupts) (sources : List Interrupt) : Option Interrupts :=
  sources.foldlM request ints

/-- Clear the request of one source. -/
def clear (ints : Interrupts) (source : Interrupt) : Option Interrupts := do
  let bit ← bit source.index
  return { ints with requested := ints.requested &&& ~~~bit }

theorem vector_eq (source : Interrupt) : vector source = some source.vector := by
  cases source <;> rfl

theorem bit_index (source : Interrupt) : bit source.index = some source.bit := by
  cases source <;> rfl

theorem highest?_eq (mask : UInt8) : highest? mask = some (Interrupt.highest? mask) := by
  revert mask
  exact forall_byte (by decide +kernel)

theorem request_eq (ints : Interrupts) (source : Interrupt) :
    request ints source = some (ints.request source) :=
  bind_of_eq (bit_index source) rfl

theorem requestAll_eq (ints : Interrupts) (sources : List Interrupt) :
    requestAll ints sources = some (ints.requestAll sources) :=
  foldlM_of_eq (fun ints source _ => request_eq ints source) ints

theorem clear_eq (ints : Interrupts) (source : Interrupt) : clear ints source = some (ints.clear source) :=
  bind_of_eq (bit_index source) rfl

/-! ## Opcodes -/

/-- The opcodes of the jumps that depend on a flag and go by a signed byte. -/
def relativeJumps : List UInt8 := [0x20, 0x28, 0x30, 0x38]

/-- The instruction that an opcode names, if it names one.  Four opcodes count their conditions from the
fourth on; and what names none is asserted to be in the list of the gaps. -/
def decode (opcode : UInt8) : Option (Option Instruction) :=
  if opcode ∈ relativeJumps then do
    let field ← minus (opcode.toNat / 8 % 8) 4
    return some (.jumpRelativeIf (.ofField field))
  else
    match Instruction.decode opcode with
    | some instruction => some (some instruction)
    | none => if opcode ∈ Instruction.gaps then some none else none

theorem decode_eq (opcode : UInt8) : decode opcode = some (Instruction.decode opcode) := by
  revert opcode
  exact forall_byte (by decide +kernel)

end DotMatrix.Narrow
