import DotMatrix.Proofs.Narrow.Cartridge
import DotMatrix.Proofs.Narrow.Devices
import DotMatrix.Proofs.Narrow.Microcode
import DotMatrix.Proofs.Narrow.Slice

/-! # The memory map in registers

Reading, storing, and letting an M-cycle pass, with every device in registers.  While the devices keep to
their ranges nothing that is done to them is without a result; and since a memory map that is used in any way
keeps to them, the dialogue of a step can be held from its first call to its last (`hold_eq`).
-/
namespace DotMatrix

/-- An M-cycle of the devices, part by part. -/
theorem MemoryMap.tickDevices_eq (map : MemoryMap) : map.tickDevices =
    { map with
      timer := (map.timer.advance 4).1
      serial := (map.serial.advance 4).1
      lcd := (map.lcd.slice 4).1
      ints := map.ints.requestAll map.requestsOfTick } := by
  unfold requestsOfTick
  rw [← map.lcd.advance_four, Interrupts.requestAll_append, Interrupts.requestAll_append]
  rfl

namespace Narrow

/-! ## Reading and storing -/

/-- The byte of the program window at an address. -/
def readProgram (map : MemoryMap) (address : UInt16) : Option UInt8 :=
  if map.bootMapped && address < 0x100 then some (map.boot.data[address.toNat]?.getD 0xFF)
  else
    match map.cart with
    | some cart => readRom cart address
    | none => some 0xFF

/-- The byte of the cartridge's memory window at an address. -/
def readSave (map : MemoryMap) (address : UInt16) : Option UInt8 :=
  match map.cart with
  | some cart => readRam cart address
  | none => some 0xFF

/-- The byte at an address. -/
def read (map : MemoryMap) (address : UInt16) : Option UInt8 :=
  match Region.of address with
  | .program => readProgram map address
  | .video => if map.lcd.vramOpen then readCell map.lcd.vram address.toNat else some 0xFF
  | .save => readSave map address
  | .work => readCell map.work address.toNat
  | .boot | .spare => readCell map.spare address.toNat
  | .high => readCell map.high address.toNat
  | _ => some (map.read address)

/-- Change the cartridge, if there is one. -/
def changeCart (map : MemoryMap) (change : Cartridge → Option Cartridge) : Option MemoryMap := do
  let cart ← map.cart.mapM change
  return { map with cart := cart }

/-- Set requests that a device made. -/
def withRequests (map : MemoryMap) (requests : List Interrupt) : Option MemoryMap := do
  let ints ← requestAll map.ints requests
  return { map with ints := ints }

/-- Store a byte. -/
def write (map : MemoryMap) (address : UInt16) (value : UInt8) : Option MemoryMap :=
  match Region.of address with
  | .program => changeCart map (writeRom · address value)
  | .video =>
    if map.lcd.vramOpen then do
      let vram ← writeCell map.lcd.vram address.toNat value
      return { map with lcd := { map.lcd with vram := vram } }
    else some map
  | .save => changeCart map (writeRam · address value)
  | .work => do
    let work ← writeCell map.work address.toNat value
    return { map with work := work }
  | .joypad =>
    let (joypad, requests) := map.joypad.write value
    withRequests { map with joypad := joypad } requests
  | .timer => do
    let timer ← writeTimer map.timer address value
    return { map with timer := timer }
  | .copy => do
    let dma ← startDma map.dma value
    return { map with lcd := map.lcd.write address value, dma := dma }
  | .boot => do
    let spare ← writeCell map.spare address.toNat value
    return { map with spare := spare, bootMapped := false }
  | .spare => do
    let spare ← writeCell map.spare address.toNat value
    return { map with spare := spare }
  | .high => do
    let high ← writeCell map.high address.toNat value
    return { map with high := high }
  | _ => some (map.write address value)

/-! ## Time -/

/-- The byte at an address as the copying engine sees it. -/
def readForCopy (map : MemoryMap) (address : UInt16) : Option UInt8 :=
  match Region.of address with
  | .program | .save | .work => read map address
  | .video => readCell map.lcd.vram address.toNat
  | _ => some 0xFF

/-- One M-cycle of the copying engine. -/
def tickCopy (map : MemoryMap) : Option MemoryMap := do
  match ← tickDma map.dma with
  | (dma, some index) =>
    let address ← fit .word (map.dma.source + index)
    let value ← readForCopy map (UInt16.ofNat address)
    return { map with lcd := map.lcd.writeOam (UInt16.ofNat index) value, dma := dma }
  | (dma, none) => return { map with dma := dma }

/-- One M-cycle of the timer, the serial port and the LCD. -/
def tickDevices (map : MemoryMap) : Option MemoryMap := do
  let timer ← collect tickTimer 4 map.timer
  let serial ← advanceSerial 4 map.serial
  let lcd ← slice 4 map.lcd
  withRequests { map with timer := timer.1, serial := serial.1, lcd := lcd.1 } (timer.2 ++ serial.2 ++ lcd.2)

/-- One M-cycle of everything. -/
def tick (map : MemoryMap) : Option MemoryMap := do
  let map ← tickDevices map
  tickCopy map

/-- Sample the buttons. -/
def poll (map : MemoryMap) : Option MemoryMap :=
  let (joypad, requests) := map.joypad.poll map.buttons
  withRequests { map with joypad := joypad } requests

/-- Withdraw the request of a source. -/
def acknowledge (map : MemoryMap) (source : Interrupt) : Option MemoryMap := do
  let ints ← clear map.ints source
  return { map with ints := ints }

/-- What one call does to the memory map. -/
def call (map : MemoryMap) : Call → Option MemoryMap
  | .poll => poll map
  | .read address _ => do
    let _ ← read map address
    return map
  | .write address value => write map address value
  | .tick => tick map
  | .acknowledge source => acknowledge map source
  | .resetDivider => some map.resetDivider

/-- Hold a dialogue with the memory map. -/
def hold {α : Type} : Dialogue α → MemoryMap → Option (α × MemoryMap)
  | .done result, map => some (result, map)
  | .poll rest, map => do
    let map ← poll map
    hold rest map
  | .read address rest, map => do
    let value ← read map address
    hold (rest value) map
  | .write address value rest, map => do
    let map ← write map address value
    hold rest map
  | .tick rest, map => do
    let map ← tick map
    hold rest map
  | .pending rest, map => hold (rest map.ints.pending) map
  | .acknowledge source rest, map => do
    let map ← acknowledge map source
    hold rest map
  | .buttonHeld rest, map => hold (rest map.joypad.anyPressed) map
  | .resetDivider rest, map => hold rest map.resetDivider

section
variable {map : MemoryMap}

theorem withRequests_eq (map : MemoryMap) (requests : List Interrupt) :
    withRequests map requests = some { map with ints := map.ints.requestAll requests } :=
  bind_of_eq (requestAll_eq map.ints requests) rfl

theorem poll_eq (map : MemoryMap) : poll map = some map.poll := withRequests_eq _ _

theorem acknowledge_eq (map : MemoryMap) (source : Interrupt) :
    acknowledge map source = some (map.call (.acknowledge source)) :=
  bind_of_eq (clear_eq map.ints source) rfl

section
variable (h : ∀ cart, map.cart = some cart → cart.InRange)
include h

theorem readProgram_eq (address : UInt16) : readProgram map address = some (map.readProgram address) := by
  unfold readProgram MemoryMap.readProgram
  by_cases shadowed : (map.bootMapped && address < 0x100) = true
  · rw [if_pos shadowed, if_pos shadowed, getElem?_data]
    by_cases inside : address.toNat < map.boot.size
    · rw [getElem?_pos map.boot _ inside, dif_pos inside]
      rfl
    · rw [getElem?_neg map.boot _ inside, dif_neg inside]
      rfl
  · rw [if_neg shadowed, if_neg shadowed]
    cases there : map.cart with
    | none => rfl
    | some cart => exact readRom_eq (h cart there) address

theorem readSave_eq (address : UInt16) : readSave map address = some (map.readSave address) := by
  unfold readSave MemoryMap.readSave
  cases there : map.cart with
  | none => rfl
  | some cart => exact readRam_eq (h cart there) address

theorem read_eq (address : UInt16) : read map address = some (map.read address) := by
  have small := address.toNat_lt
  unfold read MemoryMap.read
  cases Region.of address with
  | program => exact readProgram_eq h address
  | save => exact readSave_eq h address
  | video =>
    dsimp only
    rw [readCell_eq _ small]
    exact (apply_ite some _ _ _).symm
  | work | boot | spare | high => exact readCell_eq _ small
  | _ => rfl

theorem changeCart_eq {checked : Cartridge → Option Cartridge} {plain : Cartridge → Cartridge}
    (each : ∀ cart, cart.InRange → checked cart = some (plain cart)) :
    changeCart map checked = some (map.mapCart plain) := by
  have changed : map.cart.mapM checked = some (map.cart.map plain) := by
    cases there : map.cart with
    | none => rfl
    | some cart =>
      rw [Option.mapM_some, each cart (h cart there)]
      rfl
  exact bind_of_eq changed rfl

theorem write_eq (address : UInt16) (value : UInt8) :
    write map address value = some (map.write address value) := by
  have small := address.toNat_lt
  unfold write MemoryMap.write
  cases Region.of address with
  | program => exact changeCart_eq h fun _ inRange => writeRom_eq inRange address value
  | save => exact changeCart_eq h fun _ inRange => writeRam_eq inRange address value
  | video =>
    dsimp only
    rw [writeCell_eq _ small]
    exact (apply_ite some _ _ _).symm
  | work | boot | spare | high => exact bind_of_eq (writeCell_eq _ small value) rfl
  | joypad => exact withRequests_eq _ _
  | timer => exact bind_of_eq (writeTimer_eq map.timer address value) rfl
  | copy => exact bind_of_eq (startDma_eq map.dma value) rfl
  | _ => rfl

theorem readForCopy_eq (address : UInt16) : readForCopy map address = some (map.readForCopy address) := by
  unfold readForCopy MemoryMap.readForCopy
  cases Region.of address with
  | program | save | work => exact read_eq h address
  | video => exact readCell_eq _ address.toNat_lt
  | _ => rfl

theorem tickCopy_eq (dma : map.dma.InRange) : tickCopy map = some map.tickDma := by
  refine bind_of_eq (tickDma_eq dma) ?_
  unfold MemoryMap.tickDma
  cases moved : map.dma.tick with
  | mk later index =>
    cases index with
    | none => rfl
    | some index =>
      have source : map.dma.source + 160 ≤ 0xE000 := dma.source
      have few : map.dma.index ≤ 160 := dma.index
      have next : index = map.dma.index := by
        unfold Dma.tick at moved
        split at moved
        · cases moved
        · split at moved <;> cases moved
          rfl
      refine bind_of_eq (fit_word (by omega)) ?_
      exact bind_of_eq (readForCopy_eq h _) rfl

end

section
variable (h : map.InRange)
include h

theorem tickDevices_eq : tickDevices map = some map.tickDevices := by
  refine bind_of_eq (advance_timer_eq h.timer 4) ?_
  refine bind_of_eq (advanceSerial_eq h.serial 4) ?_
  refine bind_of_eq (slice_eq h.lcd (Nat.le_refl 4)) ?_
  rw [MemoryMap.tickDevices_eq]
  exact withRequests_eq _ _

theorem tick_eq : tick map = some map.tick := by
  exact bind_of_eq (tickDevices_eq h) (tickCopy_eq h.cart h.dma)

/-- **Every call has a result.** -/
theorem call_eq (made : Call) : call map made = some (map.call made) := by
  cases made with
  | poll => exact poll_eq map
  | read address _ => exact bind_of_eq (read_eq h.cart address) rfl
  | write address value => exact write_eq h.cart address value
  | tick => exact tick_eq h
  | acknowledge source => exact acknowledge_eq map source
  | resetDivider => rfl

end

end

/-- **A dialogue has a result if it is one on the bus.** -/
theorem hold_eq {α : Type} (dialogue : Dialogue α) {map : MemoryMap} (h : map.Fit) :
    hold dialogue map = some (dialogue.run map) := by
  induction dialogue generalizing map with
  | done => rfl
  | poll rest ih => exact bind_of_eq (poll_eq map) (ih (h.call .poll))
  | read address rest ih => exact bind_of_eq (read_eq h.cart address) (ih _ h)
  | write address value rest ih =>
    exact bind_of_eq (write_eq h.cart address value) (ih (h.call (.write address value)))
  | tick rest ih => exact bind_of_eq (tick_eq h.inRange) (ih (h.call .tick))
  | pending rest ih | buttonHeld rest ih => exact ih _ h
  | acknowledge source rest ih =>
    exact bind_of_eq (acknowledge_eq map source) (ih (h.call (.acknowledge source)))
  | resetDivider rest ih => exact ih (h.call .resetDivider)

end Narrow
end DotMatrix
