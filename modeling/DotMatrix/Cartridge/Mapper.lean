import DotMatrix.Cartridge.Clock
import DotMatrix.Cartridge.Kind

/-! # Bank controllers

A controller decides which bank of the program shows in each half of the program window, and what
the memory window shows. It is driven by stores into the program window, which is otherwise read
only: the address picks a register and the value fills it. Banks are numbered without regard to how
many there are.
-/
namespace DotMatrix

/-- What an access to the memory window meets. -/
inductive Target where
  /-- Nothing; reads as an open bus. -/
  | nothing
  /-- A byte of the memory. -/
  | byte (offset : Nat)
  /-- The low half of a byte of the memory. -/
  | nibble (offset : Nat)
  /-- A register of the clock. -/
  | clock (register : ClockRegister)
  deriving DecidableEq

/-! ## The registers of each controller -/

/-- The value that unlocks the memory window, in the low four bits. -/
def unlocks (value : UInt8) : Bool := value.toNat % 16 == 10

/-- Bank zero cannot be selected; the bank after it takes its place. -/
def notZero (bank : Nat) : Nat := max bank 1

/-- The first controller: five bits and two bits for the bank. -/
structure Mbc1 where
  unlocked : Bool := false
  /-- The low five bits of the program bank, never zero. -/
  low : Nat := 1
  /-- Two bits more of the program bank, or the memory bank. -/
  upper : Nat := 0
  /-- Whether the upper bits also act on the first half of the program window and on the memory
  window. -/
  advanced : Bool := false
  deriving DecidableEq

/-- The second controller: sixteen banks, and 512 half bytes of its own. -/
structure Mbc2 where
  unlocked : Bool := false
  bank : Nat := 1
  deriving DecidableEq

/-- The third controller: 128 banks, and perhaps a clock. -/
structure Mbc3 where
  unlocked : Bool := false
  bank : Nat := 1
  /-- The memory bank, or the number of a register of the clock. -/
  selector : Nat := 0
  /-- Whether the last store into the latch register was zero. -/
  armed : Bool := false
  clock : Option Clock := none
  deriving DecidableEq

/-- The fifth controller: 512 banks, none of them excluded, and perhaps a motor. -/
structure Mbc5 where
  unlocked : Bool := false
  bank : Nat := 1
  ramBank : Nat := 0
  /-- Whether there is a motor, which takes one bit of the memory bank. -/
  rumble : Bool := false
  motor : Bool := false
  deriving DecidableEq

namespace Mbc1

/-- Store into the program window. -/
def select (chip : Mbc1) (address : UInt16) (value : UInt8) : Mbc1 :=
  if address < 0x2000 then { chip with unlocked := unlocks value }
  else if address < 0x4000 then { chip with low := notZero (value.toNat % 32) }
  else if address < 0x6000 then { chip with upper := value.toNat % 4 }
  else { chip with advanced := hasBit value 0 }

/-- The memory bank. -/
def ramBank (chip : Mbc1) : Nat := if chip.advanced then chip.upper else 0

end Mbc1

namespace Mbc2

/-- Store into the program window; one bit of the address tells the two registers apart. -/
def select (chip : Mbc2) (address : UInt16) (value : UInt8) : Mbc2 :=
  if address < 0x4000 then
    if hasBit (highByte address) 0 then { chip with bank := notZero (value.toNat % 16) }
    else { chip with unlocked := unlocks value }
  else chip

end Mbc2

namespace Mbc3

/-- Store into the program window at an instant. A one that follows a zero latches the clock. -/
def select (chip : Mbc3) (address : UInt16) (value : UInt8) (now : UInt64) : Mbc3 :=
  if address < 0x2000 then { chip with unlocked := unlocks value }
  else if address < 0x4000 then { chip with bank := notZero (value.toNat % 128) }
  else if address < 0x6000 then { chip with selector := value.toNat % 16 }
  else
    { chip with
      armed := value == 0
      clock := if chip.armed && value == 1 then chip.clock.map (·.latch now) else chip.clock }

/-- What the memory window shows when it is unlocked, at an offset into it. -/
def target (chip : Mbc3) (offset : Nat) : Target :=
  if chip.selector < 4 then .byte (chip.selector * 0x2000 + offset)
  else if chip.clock.isSome then
    match ClockRegister.ofNumber? chip.selector with
    | some register => .clock register
    | none => .nothing
  else .nothing

end Mbc3

namespace Mbc5

/-- Store into the program window. -/
def select (chip : Mbc5) (address : UInt16) (value : UInt8) : Mbc5 :=
  if address < 0x2000 then { chip with unlocked := unlocks value }
  else if address < 0x3000 then { chip with bank := chip.bank / 256 * 256 + value.toNat }
  else if address < 0x4000 then { chip with bank := value.toNat % 2 * 256 + chip.bank % 256 }
  else if address < 0x6000 then
    if chip.rumble then { chip with ramBank := value.toNat % 8, motor := hasBit value 3 }
    else { chip with ramBank := value.toNat % 16 }
  else chip

end Mbc5

/-! ## Any controller -/

/-- A controller with its registers. -/
inductive Mapper where
  | plain
  | mbc1 (chip : Mbc1)
  | mbc2 (chip : Mbc2)
  | mbc3 (chip : Mbc3)
  | mbc5 (chip : Mbc5)
  deriving DecidableEq

namespace Mapper

/-- The controller of a kind of cartridge when the power comes on at an instant. -/
def ofKind (kind : Kind) (now : UInt64) : Mapper :=
  match kind.controller with
  | .plain => plain
  | .mbc1 => mbc1 {}
  | .mbc2 => mbc2 {}
  | .mbc3 => mbc3 { clock := if kind.clock then some { synced := now } else none }
  | .mbc5 => mbc5 { rumble := kind.rumble }

/-- Store into the program window at an instant. -/
def select (mapper : Mapper) (address : UInt16) (value : UInt8) (now : UInt64) : Mapper :=
  match mapper with
  | plain => plain
  | mbc1 chip => mbc1 (chip.select address value)
  | mbc2 chip => mbc2 (chip.select address value)
  | mbc3 chip => mbc3 (chip.select address value now)
  | mbc5 chip => mbc5 (chip.select address value)

/-- The bank in the second half of the program window. -/
def romBank : Mapper → Nat
  | plain => 1
  | mbc1 chip => chip.upper * 32 + chip.low
  | mbc2 chip => chip.bank
  | mbc3 chip => chip.bank
  | mbc5 chip => chip.bank

/-- The bank in the first half of the program window. -/
def fixedBank : Mapper → Nat
  | mbc1 chip => if chip.advanced then chip.upper * 32 else 0
  | _ => 0

/-- What the memory window shows at an offset into it. -/
def target (mapper : Mapper) (offset : Nat) : Target :=
  match mapper with
  | plain => .byte offset
  | mbc1 chip => if chip.unlocked then .byte (chip.ramBank * 0x2000 + offset) else .nothing
  | mbc2 chip => if chip.unlocked then .nibble (offset % 0x200) else .nothing
  | mbc3 chip => if chip.unlocked then chip.target offset else .nothing
  | mbc5 chip => if chip.unlocked then .byte (chip.ramBank * 0x2000 + offset) else .nothing

/-- The clock, if there is one. -/
def clock? : Mapper → Option Clock
  | mbc3 chip => chip.clock
  | _ => none

/-- The byte shown by a register of the clock, and an open bus without a clock. -/
def readClock (mapper : Mapper) (register : ClockRegister) : UInt8 :=
  match mapper.clock? with
  | some clock => clock.read register
  | none => 0xFF

/-- Write a register of the clock at an instant, if there is one. -/
def writeClock (mapper : Mapper) (register : ClockRegister) (value : UInt8) (now : UInt64) :
    Mapper :=
  match mapper with
  | mbc3 chip => mbc3 { chip with clock := chip.clock.map (·.write register value now) }
  | other => other

/-- Whether the motor runs. -/
def motor : Mapper → Bool
  | mbc5 chip => chip.motor
  | _ => false

end Mapper
end DotMatrix
