import DotMatrix.Bus.Basic
import DotMatrix.Cartridge.Basic
import DotMatrix.Dma
import DotMatrix.Joypad
import DotMatrix.Lcd.Slice
import DotMatrix.Serial
import DotMatrix.Timer

/-! # The memory map

The address space as the processor sees it, and everything that answers in it. `Region.of` says once
and for all which part of the machine an address belongs to; reading and storing follow it.

An M-cycle moves the timer, the serial port, the LCD and the copying engine, in this order. Their
requests are set as they are made.
-/
namespace DotMatrix

/-! ## Regions -/

/-- The parts of the address space. -/
inductive Region where
  /-- The program window of the cartridge, with the boot program over its start. -/
  | program
  | video
  /-- The memory window of the cartridge. -/
  | save
  /-- Work memory, and most of it once more. -/
  | work
  | objects
  /-- Addresses at which nothing is. -/
  | gap
  | joypad
  | serial
  | timer
  /-- The interrupt requests. -/
  | requests
  | lcd
  /-- The register that starts a copy to object memory. -/
  | copy
  /-- The register that takes the boot program away. -/
  | boot
  /-- Registers without a device, which keep what is stored. -/
  | spare
  /-- The small memory beside the processor. -/
  | high
  /-- The enabled interrupts. -/
  | enables
  deriving DecidableEq, Inhabited

namespace Region

/-- The region of a register address, from 0xFF00 to 0xFF7F. -/
def ofRegister (address : UInt16) : Region :=
  if address = 0xFF00 then joypad
  else if address = 0xFF01 ∨ address = 0xFF02 then serial
  else if 0xFF04 ≤ address ∧ address ≤ 0xFF07 then timer
  else if address = 0xFF0F then requests
  else if address = 0xFF46 then copy
  else if 0xFF40 ≤ address ∧ address ≤ 0xFF4B then lcd
  else if address = 0xFF50 then boot
  else spare

/-- The region of an address. -/
def of (address : UInt16) : Region :=
  if address < 0x8000 then program
  else if address < 0xA000 then video
  else if address < 0xC000 then save
  else if address < 0xFE00 then work
  else if address < 0xFEA0 then objects
  else if address < 0xFF00 then gap
  else if address < 0xFF80 then ofRegister address
  else if address < 0xFFFF then high
  else enables

end Region

/-! ## State -/

/-- Everything but the processor. -/
structure MemoryMap where
  work : Ram 0x2000 := .zeroed
  high : Ram 0x80 := .zeroed
  /-- What was stored in registers without a device, and in the one that takes the boot program
  away. -/
  spare : Ram 0x80 := .zeroed
  cart : Option Cartridge := none
  /-- The boot program. -/
  boot : ByteArray := .empty
  /-- Whether the boot program lies over the start of the program window. -/
  bootMapped : Bool := false
  ints : Interrupts := {}
  timer : Timer := {}
  serial : Serial := {}
  lcd : Lcd := {}
  joypad : Joypad := {}
  /-- The buttons as they are now; the joypad knows them as they were at the last sample. -/
  buttons : Buttons := {}
  dma : Dma := {}

namespace MemoryMap

/-- Every device as it is when the power comes on, with an empty slot. -/
def powerOn : MemoryMap := {}

instance : Inhabited MemoryMap := ⟨powerOn⟩

/-- Every device as the boot program leaves it. -/
def afterBoot : MemoryMap :=
  { timer := { divider := Timer.dividerAfterBoot }
    lcd := Lcd.afterBoot {}
    ints := { requested := Interrupt.vblank.bit }
    spare := Ram.zeroed.write 0x50 1 }

/-- Every device as it is when the power comes on; the cartridge stays in its slot, and buttons stay
down. -/
def reset (map : MemoryMap) : MemoryMap :=
  { powerOn with cart := map.cart, buttons := map.buttons }

/-- Put a cartridge into the slot. -/
def insert (map : MemoryMap) (cart : Cartridge) : MemoryMap := { map with cart := some cart }

/-- Change the cartridge, if there is one. -/
@[inline]
def mapCart (map : MemoryMap) (change : Cartridge → Cartridge) : MemoryMap :=
  match map with
  | ⟨work, high, spare, cart, boot, bootMapped, ints, timer, serial, lcd, joypad, buttons, dma⟩ =>
    ⟨work, high, spare, cart.map change, boot, bootMapped, ints, timer, serial, lcd, joypad,
      buttons, dma⟩

/-! ## The boot program -/

/-- Lay a boot program over the first 256 addresses. -/
def mapBoot (map : MemoryMap) (image : ByteArray) : MemoryMap :=
  { map with boot := image, bootMapped := true, spare := map.spare.write 0x50 0 }

/-- What is said when a boot program is laid over the program window. -/
def bootMappedNotice (image : ByteArray) : Notice :=
  ⟨.info, "boot ROM mapped (" ++ toString image.size ++ " bytes)"⟩

/-- What is said about the boot program after something was done that found it in place or not. -/
def bootNotices (map : MemoryMap) (wasMapped : Bool) : List Notice :=
  if wasMapped && !map.bootMapped then [⟨.info, "boot ROM unmapped"⟩] else []

/-- The byte of the program window at an address: of the boot program where that lies, which is an
open bus beyond its end, and else of the cartridge. -/
def readProgram (map : MemoryMap) (address : UInt16) : UInt8 :=
  if map.bootMapped && address < 0x100 then
    if h : address.toNat < map.boot.size then map.boot.get address.toNat h else 0xFF
  else
    match map.cart with
    | some cart => cart.readRom address
    | none => 0xFF

/-! ## Reading and storing -/

/-- The byte of the cartridge's memory window at an address. -/
def readSave (map : MemoryMap) (address : UInt16) : UInt8 :=
  match map.cart with
  | some cart => cart.readRam address
  | none => 0xFF

/-- Whether the processor reaches object memory: the LCD does not use it, and no copy fills it. -/
def objectsOpen (map : MemoryMap) : Bool := map.lcd.oamOpen && !map.dma.active

/-- The byte at an address. -/
def read (map : MemoryMap) (address : UInt16) : UInt8 :=
  match Region.of address with
  | .program => map.readProgram address
  | .video => if map.lcd.vramOpen then map.lcd.readVram address else 0xFF
  | .save => map.readSave address
  | .work => map.work.read address.toNat
  | .objects => if map.objectsOpen then map.lcd.readOam address else 0xFF
  | .gap => 0xFF
  | .joypad => map.joypad.read
  | .serial => map.serial.read address
  | .timer => map.timer.read address
  | .requests => map.ints.requestByte
  | .lcd | .copy => map.lcd.read address
  | .boot | .spare => map.spare.read address.toNat
  | .high => map.high.read address.toNat
  | .enables => map.ints.enabled

/-- Store a byte. -/
def write (map : MemoryMap) (address : UInt16) (value : UInt8) : MemoryMap :=
  match Region.of address with
  | .program => map.mapCart (·.writeRom address value)
  | .video =>
    if map.lcd.vramOpen then { map with lcd := map.lcd.writeVram address value } else map
  | .save => map.mapCart (·.writeRam address value)
  | .work => { map with work := map.work.write address.toNat value }
  | .objects =>
    if map.objectsOpen then { map with lcd := map.lcd.writeOam address value } else map
  | .gap => map
  | .joypad =>
    match map.joypad.write value with
    | (joypad, requests) => { map with joypad := joypad, ints := map.ints.requestAll requests }
  | .serial => { map with serial := map.serial.write address value }
  | .timer => { map with timer := map.timer.write address value }
  | .requests => { map with ints := map.ints.setRequests value }
  | .lcd => { map with lcd := map.lcd.write address value }
  | .copy => { map with lcd := map.lcd.write address value, dma := map.dma.start value }
  | .boot => { map with spare := map.spare.write address.toNat value, bootMapped := false }
  | .spare => { map with spare := map.spare.write address.toNat value }
  | .high => { map with high := map.high.write address.toNat value }
  | .enables => { map with ints := map.ints.setEnabled value }

/-! ## Time -/

/-- The byte at an address as the copying engine sees it: video memory is always open to it, and it
does not reach beyond work memory. -/
def readForCopy (map : MemoryMap) (address : UInt16) : UInt8 :=
  match Region.of address with
  | .program | .save | .work => map.read address
  | .video => map.lcd.readVram address
  | _ => 0xFF

/-- Move the byte with a number to object memory. -/
def copyByte (map : MemoryMap) (index : Nat) : MemoryMap :=
  let value := map.readForCopy (UInt16.ofNat (map.dma.source + index))
  { map with lcd := map.lcd.writeOam (UInt16.ofNat index) value }

/-- One M-cycle of the copying engine. -/
def tickDma (map : MemoryMap) : MemoryMap :=
  match map.dma.tick with
  | (dma, some index) => { map.copyByte index with dma := dma }
  | (dma, none) => { map with dma := dma }

/-- One M-cycle of the timer, the serial port and the LCD. -/
def tickDevices (map : MemoryMap) : MemoryMap :=
  match map with
  | ⟨work, high, spare, cart, boot, bootMapped, ints, timer, serial, lcd, joypad, buttons, dma⟩ =>
    match timer.advance 4, serial.advance 4, lcd.advance 4 with
    | (timer, fromTimer), (serial, fromSerial), (lcd, fromLcd) =>
      ⟨work, high, spare, cart, boot, bootMapped,
        ((ints.requestAll fromTimer).requestAll fromSerial).requestAll fromLcd,
        timer, serial, lcd, joypad, buttons, dma⟩

/-- **One M-cycle** of everything. -/
def tick (map : MemoryMap) : MemoryMap := map.tickDevices.tickDma

/-- Sample the buttons. -/
def poll (map : MemoryMap) : MemoryMap :=
  match map.joypad.poll map.buttons with
  | (joypad, requests) => { map with joypad := joypad, ints := map.ints.requestAll requests }

/-- Clear the divider. -/
def resetDivider (map : MemoryMap) : MemoryMap := { map with timer := map.timer.resetDivider }

instance : Bus MemoryMap where
  read map address := (map.read address, map)
  write := write
  tick := tick
  pending map := map.ints.pending
  acknowledge map source := { map with ints := map.ints.clear source }
  poll := poll
  buttonHeld map := map.joypad.anyPressed
  resetDivider := resetDivider

instance : Bus.Lawful MemoryMap := ⟨fun map => by
  show map.ints.enabled &&& map.ints.requested &&& 0x1F &&& 0x1F = _
  rw [UInt8.and_assoc, UInt8.and_self]
  rfl⟩

end MemoryMap
end DotMatrix
