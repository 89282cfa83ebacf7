import DotMatrix.Cpu.Flags

/-! # Arithmetic

The operations of the SM83 on bytes and words, as functions of their operands and the flags that
they look at. Additions and subtractions are taken in `Nat`: the carry says that the true sum does
not fit, the half carry says the same of the lower halves.
-/
namespace DotMatrix.Arithmetic

/-! ## Bytes -/

/-- Addition of two bytes and a carry. -/
def add (a b : UInt8) (carry : Bool) : UInt8 × Flags :=
  let sum := a.toNat + b.toNat + carry.toNat
  let result := UInt8.ofNat sum
  (result,
    { zero := result == 0
      halfCarry := 16 ≤ a.toNat % 16 + b.toNat % 16 + carry.toNat
      carry := 256 ≤ sum })

/-- Subtraction of a byte and a borrow. -/
def sub (a b : UInt8) (carry : Bool) : UInt8 × Flags :=
  let result := UInt8.ofNat (a.toNat + 512 - (b.toNat + carry.toNat))
  (result,
    { zero := result == 0
      subtract := true
      halfCarry := a.toNat % 16 < b.toNat % 16 + carry.toNat
      carry := a.toNat < b.toNat + carry.toNat })

/-- Bitwise conjunction. -/
def and (a b : UInt8) : UInt8 × Flags :=
  let result := a &&& b
  (result, { zero := result == 0, halfCarry := true })

/-- Bitwise disjunction. -/
def or (a b : UInt8) : UInt8 × Flags :=
  let result := a ||| b
  (result, { zero := result == 0 })

/-- Bitwise difference. -/
def xor (a b : UInt8) : UInt8 × Flags :=
  let result := a ^^^ b
  (result, { zero := result == 0 })

/-- One more; the carry is kept. -/
def inc (value : UInt8) (flags : Flags) : UInt8 × Flags :=
  let result := value + 1
  (result,
    { zero := result == 0, halfCarry := value.toNat % 16 == 15, carry := flags.carry })

/-- One less; the carry is kept. -/
def dec (value : UInt8) (flags : Flags) : UInt8 × Flags :=
  let result := value - 1
  (result,
    { zero := result == 0, subtract := true, halfCarry := value.toNat % 16 == 0
      carry := flags.carry })

/-- Correct a sum or a difference of packed decimal bytes to packed decimal. -/
def decimalAdjust (a : UInt8) (flags : Flags) : UInt8 × Flags :=
  let low := flags.halfCarry || (!flags.subtract && 9 < a.toNat % 16)
  let high := flags.carry || (!flags.subtract && 0x99 < a.toNat)
  let correction := maskIf low 0x06 ||| maskIf high 0x60
  let result := if flags.subtract then a - correction else a + correction
  (result, { zero := result == 0, subtract := flags.subtract, carry := high })

/-- All bits flipped; zero and carry are kept. -/
def complement (a : UInt8) (flags : Flags) : UInt8 × Flags :=
  (~~~a, { flags with subtract := true, halfCarry := true })

/-- Set the carry; zero is kept. -/
def setCarry (flags : Flags) : Flags := { zero := flags.zero, carry := true }

/-- Flip the carry; zero is kept. -/
def flipCarry (flags : Flags) : Flags := { zero := flags.zero, carry := !flags.carry }

/-! ## Rotations and shifts

Each moves the bits by one place; the bit that leaves the byte becomes the carry. They differ in
what enters at the other end. -/

/-- A result with the zero flag it deserves and the carry it produced. -/
def shifted (result : UInt8) (carry : Bool) : UInt8 × Flags :=
  (result, { zero := result == 0, carry := carry })

/-- To the left; the top bit enters at the bottom. -/
def rotateLeft (value : UInt8) : UInt8 × Flags :=
  shifted (value <<< 1 ||| value >>> 7) (hasBit value 7)

/-- To the right; the bottom bit enters at the top. -/
def rotateRight (value : UInt8) : UInt8 × Flags :=
  shifted (value >>> 1 ||| value <<< 7) (hasBit value 0)

/-- To the left; the old carry enters at the bottom. -/
def rotateLeftCarry (value : UInt8) (flags : Flags) : UInt8 × Flags :=
  shifted (value <<< 1 ||| maskIf flags.carry 0x01) (hasBit value 7)

/-- To the right; the old carry enters at the top. -/
def rotateRightCarry (value : UInt8) (flags : Flags) : UInt8 × Flags :=
  shifted (value >>> 1 ||| maskIf flags.carry 0x80) (hasBit value 0)

/-- To the left; zero enters. -/
def shiftLeft (value : UInt8) : UInt8 × Flags := shifted (value <<< 1) (hasBit value 7)

/-- To the right; the top bit stays as a sign. -/
def shiftRightSigned (value : UInt8) : UInt8 × Flags :=
  shifted (value >>> 1 ||| value &&& 0x80) (hasBit value 0)

/-- To the right; zero enters. -/
def shiftRight (value : UInt8) : UInt8 × Flags := shifted (value >>> 1) (hasBit value 0)

/-- The two halves change places. -/
def swap (value : UInt8) : UInt8 × Flags := shifted (value <<< 4 ||| value >>> 4) false

/-- Test one bit: zero is set where the bit is clear, and the carry is kept. -/
def testBit (index : Nat) (value : UInt8) (flags : Flags) : Flags :=
  { zero := !hasBit value index, halfCarry := true, carry := flags.carry }

/-! ## Words -/

/-- Addition of two words; the half carry leaves bit 11, and zero is kept. -/
def addWord (a b : UInt16) (flags : Flags) : UInt16 × Flags :=
  (a + b,
    { zero := flags.zero
      halfCarry := 4096 ≤ a.toNat % 4096 + b.toNat % 4096
      carry := 65536 ≤ a.toNat + b.toNat })

/-- A word plus a signed byte. The flags are those of adding the byte, unsigned, to the low byte of
the word, except that zero is always clear. -/
def addSigned (word : UInt16) (offset : UInt8) : UInt16 × Flags :=
  (word + signExtend offset,
    { halfCarry := 16 ≤ word.toNat % 16 + offset.toNat % 16
      carry := 256 ≤ word.toNat % 256 + offset.toNat })

end DotMatrix.Arithmetic
