import DotMatrix.Proofs.Machine.Frames
import DotMatrix.Proofs.MemoryMap.Regions

/-! # Calls in a row

The memory map changes by the calls made on it, and a call can be written down.  Here a list of calls is
carried out again, one after the other (`MemoryMap.calls`): any list, not only one that a processor would
make.  That the calls of a dialogue lead where the dialogue leads is `calls_record`, so what is proved of
all lists holds of every step of the processor.  With what else can be done to a memory map
(`Operation`) they make up the reachable ones.

The rest says which devices a single call reaches.
-/
namespace DotMatrix

/-! ## Requests in a row -/

theorem Interrupts.requestAll_append (ints : Interrupts) (first second : List Interrupt) :
    ints.requestAll (first ++ second) = (ints.requestAll first).requestAll second :=
  List.foldl_append

/-! ## Calls -/

namespace MemoryMap

/-- What one call does to the memory map. -/
def call (map : MemoryMap) : Call → MemoryMap
  | .poll => map.poll
  | .read _ _ => map
  | .write address value => map.write address value
  | .tick => map.tick
  | .acknowledge source => { map with ints := map.ints.clear source }
  | .resetDivider => map.resetDivider

/-- What calls do, one after the other. -/
def calls (map : MemoryMap) (made : List Call) : MemoryMap := made.foldl call map

@[simp]
theorem calls_nil (map : MemoryMap) : map.calls [] = map := rfl

@[simp]
theorem calls_cons (map : MemoryMap) (made : Call) (more : List Call) :
    map.calls (made :: more) = (map.call made).calls more := rfl

theorem calls_append (map : MemoryMap) (made more : List Call) :
    map.calls (made ++ more) = (map.calls made).calls more :=
  List.foldl_append

theorem calls_concat (map : MemoryMap) (made : List Call) (last : Call) :
    map.calls (made ++ [last]) = (map.calls made).call last :=
  map.calls_append made [last]

/-- **The calls that are written down lead where the dialogue leads.** -/
theorem calls_record {α : Type} (dialogue : Dialogue α) (map : MemoryMap) :
    map.calls (dialogue.record map).1 = (dialogue.run map).2 := by
  induction dialogue generalizing map with
  | done => rfl
  | poll rest ih => exact ih map.poll
  | read address rest ih => exact ih _ map
  | write address value rest ih => exact ih (map.write address value)
  | tick rest ih => exact ih map.tick
  | pending rest ih | buttonHeld rest ih => exact ih _ map
  | acknowledge source rest ih => exact ih (Bus.acknowledge map source)
  | resetDivider rest ih => exact ih map.resetDivider

/-! ## Operations -/

/-- What can be done to a memory map: a call of the processor, or something from outside. -/
inductive Operation where
  | call (made : Call)
  /-- Put a cartridge into the slot. -/
  | insert (cart : Cartridge)
  /-- Do something to the cartridge in the slot. -/
  | changeCart (change : Cartridge → Cartridge)
  | mapBoot (image : ByteArray)
  /-- Switch the power off and on. -/
  | reset
  /-- Put buttons down or up. -/
  | hold (buttons : Buttons)
  /-- Take the bytes that were sent. -/
  | takeSerial
  /-- Ask whether a frame was finished. -/
  | takeFrame

/-- What an operation does to a memory map. -/
def perform (map : MemoryMap) : Operation → MemoryMap
  | .call made => map.call made
  | .insert cart => map.insert cart
  | .changeCart change => map.mapCart change
  | .mapBoot image => map.mapBoot image
  | .reset => map.reset
  | .hold buttons => { map with buttons := buttons }
  | .takeSerial => { map with serial := map.serial.take.2 }
  | .takeFrame => { map with lcd := map.lcd.takeFrameReady.2 }

/-- What operations do, one after the other. -/
def performs (map : MemoryMap) (made : List Operation) : MemoryMap := made.foldl perform map

@[simp]
theorem performs_nil (map : MemoryMap) : map.performs [] = map := rfl

@[simp]
theorem performs_cons (map : MemoryMap) (made : Operation) (more : List Operation) :
    map.performs (made :: more) = (map.perform made).performs more := rfl

theorem performs_append (map : MemoryMap) (made more : List Operation) :
    map.performs (made ++ more) = (map.performs made).performs more :=
  List.foldl_append

/-- A memory map that came about by using a new one in any way. -/
inductive Reachable : MemoryMap → Prop where
  | powerOn : Reachable powerOn
  | afterBoot : Reachable afterBoot
  | perform {map : MemoryMap} (operation : Operation) : Reachable map → Reachable (map.perform operation)

theorem Reachable.performs {map : MemoryMap} (h : Reachable map) (made : List Operation) :
    Reachable (map.performs made) := by
  induction made generalizing map with
  | nil => exact h
  | cons first more ih => exact ih (h.perform first)

/-! ## One M-cycle -/

/-- What the devices ask for in an M-cycle, in order. -/
def requestsOfTick (map : MemoryMap) : List Interrupt :=
  (map.timer.advance 4).2 ++ (map.serial.advance 4).2 ++ (map.lcd.slice 4).2

/-- **An M-cycle, device by device.**  The copying engine may store a byte in object memory. -/
structure Ticked (map after : MemoryMap) : Prop where
  timer : after.timer = (map.timer.advance 4).1
  serial : after.serial = (map.serial.advance 4).1
  lcd : ∃ oam, after.lcd = { (map.lcd.slice 4).1 with oam := oam }
  joypad : after.joypad = map.joypad
  ints : after.ints = map.ints.requestAll map.requestsOfTick
  dma : after.dma = map.dma.tick.1

theorem ticked (map : MemoryMap) : Ticked map map.tick := by
  have lcd : map.tickDevices.lcd = (map.lcd.slice 4).1 :=
    congrArg Prod.fst map.lcd.advance_four
  have ints : map.tickDevices.ints = map.ints.requestAll map.requestsOfTick := by
    unfold requestsOfTick
    rw [← map.lcd.advance_four, Interrupts.requestAll_append, Interrupts.requestAll_append]
    rfl
  unfold tick tickDma
  split
  · rename_i dma index moved
    have tick : map.dma.tick = (dma, some index) := moved
    have stored : (map.tickDevices.copyByte index).lcd = map.tickDevices.lcd.writeOam _ _ := rfl
    rw [lcd] at stored
    refine ⟨rfl, rfl, ⟨_, stored⟩, rfl, ints, ?_⟩
    rw [tick]
  · rename_i dma moved
    have tick : map.dma.tick = (dma, none) := moved
    refine ⟨rfl, rfl, ⟨_, lcd⟩, rfl, ints, ?_⟩
    rw [tick]

/-! ## The copying engine -/

variable {map : MemoryMap}

/-- Only one store concerns the copying engine. -/
theorem dma_write {address : UInt16} (other : address ≠ 0xFF46) (value : UInt8) :
    (map.write address value).dma = map.dma := by
  cases region : Region.of address with
  | copy => exact absurd (Region.eq_of_copy region) other
  | video | objects =>
    simp only [write, region]
    split <;> rfl
  | _ => simp only [write, region, mapCart]

/-- The engine moves with M-cycles only. -/
theorem dma_call {made : Call} (time : made ≠ .tick) (free : ∀ value, made ≠ .write 0xFF46 value) :
    (map.call made).dma = map.dma := by
  cases made with
  | tick => exact absurd rfl time
  | write address value =>
    refine dma_write ?_ value
    rintro rfl
    exact free value rfl
  | poll | read | acknowledge | resetDivider => rfl

end MemoryMap
end DotMatrix
