import DotMatrix.Text.Hex
import DotMatrix.Text.Quoted

/-! # Faults

What can go wrong for good: an opcode that the processor does not have, and the reasons for which
a cartridge image is refused. A fault carries the offending value; its wording is given once.
-/
namespace DotMatrix

/-- A condition that the loaded program or image cannot recover from. -/
inductive Fault where
  /-- The byte at `address` was fetched as an opcode and names no instruction. -/
  | illegalOpcode (opcode : UInt8) (address : UInt16)
  /-- The image ends before its header does. -/
  | imageTooSmall (size : Nat)
  | unsupportedCartridge (code : UInt8)
  | unknownRomSize (code : UInt8)
  | unknownRamSize (code : UInt8)
  | unknownLicensee (code : UInt8)
  /-- The two bytes of the newer licensee code. -/
  | unknownNewLicensee (first second : UInt8)
  deriving DecidableEq

namespace Fault

/-- The sentence shown for a fault. -/
def message : Fault → String
  | illegalOpcode opcode address =>
    "illegal opcode 0x" ++ Text.hexByte opcode ++ " at 0x" ++ Text.hexWord address
  | imageTooSmall size =>
    "ROM image is " ++ toString size ++ " bytes, too small to hold a cartridge header"
  | unsupportedCartridge code => "unsupported cartridge type 0x" ++ Text.hexByte code
  | unknownRomSize code => "unknown ROM size code 0x" ++ Text.hexByte code
  | unknownRamSize code => "unknown RAM size code 0x" ++ Text.hexByte code
  | unknownLicensee code => "unknown licensee code 0x" ++ Text.hexByte code
  | unknownNewLicensee first second =>
    "unknown new licensee code " ++
      Text.Quoted.quote [Char.ofNat first.toNat, Char.ofNat second.toNat]

end Fault
end DotMatrix
