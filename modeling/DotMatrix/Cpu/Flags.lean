import DotMatrix.Word

/-! # Flags

The four flags of the SM83, and the byte they are stored in: the upper half of F, of which the lower
half does not exist and reads as zero.
-/
namespace DotMatrix

/-- What the last operation left behind. -/
structure Flags where
  zero : Bool := false
  /-- The last operation was a subtraction. -/
  subtract : Bool := false
  /-- A carry out of, or a borrow into, bit 3 (bit 11 for words). -/
  halfCarry : Bool := false
  carry : Bool := false
  deriving DecidableEq, Inhabited

namespace Flags

/-- The flags in a byte; its lower half is ignored. -/
def ofByte (byte : UInt8) : Flags where
  zero := byte &&& 0x80 != 0
  subtract := byte &&& 0x40 != 0
  halfCarry := byte &&& 0x20 != 0
  carry := byte &&& 0x10 != 0

/-- The byte that holds the flags. -/
def toByte (flags : Flags) : UInt8 :=
  maskIf flags.zero 0x80 ||| maskIf flags.subtract 0x40 |||
    maskIf flags.halfCarry 0x20 ||| maskIf flags.carry 0x10

@[simp]
theorem ofByte_toByte (flags : Flags) : ofByte flags.toByte = flags := by
  rcases flags with ⟨z, n, h, c⟩
  cases z <;> cases n <;> cases h <;> cases c <;> rfl

/-- The lower half of the flag byte is empty. -/
theorem toByte_low (flags : Flags) : flags.toByte &&& 0x0F = 0 := by
  rcases flags with ⟨z, n, h, c⟩
  cases z <;> cases n <;> cases h <;> cases c <;> rfl

end Flags
end DotMatrix
