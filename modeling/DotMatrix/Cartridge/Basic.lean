import DotMatrix.Cartridge.Header
import DotMatrix.Cartridge.Mapper
import DotMatrix.Memory.Banked

/-! # Cartridges

An image with the board that its header asks for: a bank controller, memory, and whatever else the
controller drives. The cartridge carries the time of the world as the count of nanoseconds that its
owner last set, so that a run with the same instants is the same run.
-/
namespace DotMatrix

/-- A cartridge in its slot. -/
structure Cartridge where
  header : Header
  rom : Banked
  ram : Banked
  mapper : Mapper
  /-- The time of the world, in nanoseconds; it wraps. -/
  now : UInt64 := 0

namespace Cartridge

/-- Put an image onto the board that its header asks for, or refuse it. -/
def ofImage (image : ByteArray) (now : UInt64 := 0) : Except Fault Cartridge := do
  let header ← Header.read image
  return {
    header := header
    rom := ⟨image⟩
    ram := .zeroed header.fittedRam
    mapper := .ofKind header.kind now
    now := now }

/-- One line about a cartridge. -/
def summary (cart : Cartridge) : String :=
  "loaded cartridge \"" ++ cart.header.title ++ "\": " ++ cart.header.kind.controller.name ++ ", " ++
    toString (cart.header.romSize / 1024) ++ " KiB ROM, " ++
    toString (cart.header.fittedRam / 1024) ++ " KiB RAM" ++
    (if cart.header.kind.battery then ", battery" else "") ++
    (if cart.header.kind.clock then ", RTC" else "")

/-- What is to be said about a new cartridge. -/
def notices (cart : Cartridge) : List Notice :=
  cart.header.remarks cart.rom.size ++ [⟨.info, cart.summary⟩]

/-! ## The program -/

/-- The banks of 16 KiB in the image, a part of one counted as a whole. -/
def bankCount (cart : Cartridge) : Nat := max 1 ((cart.rom.size + 0x3FFF) / 0x4000)

/-- The bank in the second half of the program window. -/
def romBank (cart : Cartridge) : Nat := cart.mapper.romBank % cart.bankCount

/-- The bank in the first half of the program window. -/
def fixedBank (cart : Cartridge) : Nat := cart.mapper.fixedBank % cart.bankCount

/-- The byte at an address of the program window. -/
def readRom (cart : Cartridge) (address : UInt16) : UInt8 :=
  let offset := address.toNat % 0x8000
  let bank := if offset < 0x4000 then cart.fixedBank else cart.romBank
  cart.rom.read (bank * 0x4000 + offset % 0x4000)

/-- A store into the program window goes to the controller. -/
def writeRom (cart : Cartridge) (address : UInt16) (value : UInt8) : Cartridge :=
  { cart with mapper := cart.mapper.select address value cart.now }

/-! ## The memory window -/

/-- What the memory window shows at an address. -/
def target (cart : Cartridge) (address : UInt16) : Target :=
  cart.mapper.target (address.toNat % 0x2000)

/-- The byte at an address of the memory window. -/
def readRam (cart : Cartridge) (address : UInt16) : UInt8 :=
  match cart.target address with
  | .nothing => 0xFF
  | .byte offset => cart.ram.read offset
  | .nibble offset => 0xF0 ||| (cart.ram.read offset &&& 0x0F)
  | .clock register => cart.mapper.readClock register

/-- Store into the memory window. -/
def writeRam (cart : Cartridge) (address : UInt16) (value : UInt8) : Cartridge :=
  match cart with
  | ⟨header, rom, ram, mapper, now⟩ =>
    match mapper.target (address.toNat % 0x2000) with
    | .nothing => ⟨header, rom, ram, mapper, now⟩
    | .byte offset => ⟨header, rom, ram.write offset value, mapper, now⟩
    | .nibble offset => ⟨header, rom, ram.write offset (value &&& 0x0F), mapper, now⟩
    | .clock register => ⟨header, rom, ram, mapper.writeClock register value now, now⟩

/-- Fill the memory with what was kept of it. -/
def loadRam (cart : Cartridge) (saved : ByteArray) : Cartridge :=
  { cart with ram := cart.ram.load saved }

/-! ## The rest of the board -/

/-- Let time pass, in nanoseconds. -/
def elapse (cart : Cartridge) (nanos : UInt64) : Cartridge := { cart with now := cart.now + nanos }

/-- Whether the memory keeps its content when the power is off. -/
def hasBattery (cart : Cartridge) : Bool := cart.header.kind.battery

/-- Whether the motor runs. -/
def rumbling (cart : Cartridge) : Bool := cart.mapper.motor

end Cartridge
end DotMatrix
