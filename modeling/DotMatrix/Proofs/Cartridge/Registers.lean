import DotMatrix.Cartridge.Basic
import Mathlib.Logic.Basic

/-! # Registers of a controller

What a controller does is decided by the stores into the program window since the cartridge was made.
Each of its registers answers at certain addresses and keeps some bits of what was stored there last; no
other store, nothing that is done to the memory or to the clock, and no time that passes touches it.
`Mapper.Follows` says so for all registers of all controllers, `Mapper.Follows.select` keeps it in one
store, and `Cartridge.New.follows` says it of every cartridge that came about in any way.
-/
namespace DotMatrix
namespace Cartridge

/-! ## Using a cartridge -/

/-- What can be done with a cartridge. -/
inductive Operation where
  /-- A store into the program window. -/
  | select (address : UInt16) (value : UInt8)
  /-- A store into the memory window. -/
  | store (address : UInt16) (value : UInt8)
  /-- A look at one of the windows. -/
  | read (address : UInt16)
  /-- Fill the memory with what was kept of it. -/
  | load (saved : ByteArray)
  /-- Let time pass, in nanoseconds. -/
  | elapse (nanos : UInt64)

/-- What an operation makes of a cartridge. -/
def perform (cart : Cartridge) : Operation → Cartridge
  | .select address value => cart.writeRom address value
  | .store address value => cart.writeRam address value
  | .read _ => cart
  | .load saved => cart.loadRam saved
  | .elapse nanos => cart.elapse nanos

/-- What a cartridge becomes in the course of operations, of which the latest comes first. -/
def after (cart : Cartridge) : List Operation → Cartridge
  | [] => cart
  | last :: earlier => (cart.after earlier).perform last

/-! ## What was stored last -/

/-- What an operation stores into the program window at an address of `port`. -/
def Operation.into? (port : UInt16 → Bool) : Operation → Option UInt8
  | .select address value => if port address then some value else none
  | _ => none

/-- For each set of addresses, what was stored last into the program window at one of them. -/
abbrev Stores := (UInt16 → Bool) → Option UInt8

/-- What operations stored last, the latest operation coming first. -/
def lastStores (past : List Operation) : Stores :=
  fun port => past.findSome? (Operation.into? port)

/-- What was stored last as a number, which is `initial` before any store. -/
def Stores.value (stores : Stores) (port : UInt16 → Bool) (initial : UInt8) : Nat :=
  ((stores port).getD initial).toNat

theorem value_select (past : List Operation) (address : UInt16) (value : UInt8)
    (port : UInt16 → Bool) (initial : UInt8) :
    (lastStores (.select address value :: past)).value port initial =
      if port address then value.toNat else (lastStores past).value port initial := by
  unfold Stores.value lastStores
  rw [List.findSome?_cons, Operation.into?]
  by_cases answers : port address
  · rw [if_pos answers, if_pos answers]
    rfl
  · rw [if_neg answers, if_neg answers]

/-! ## The registers -/

/-- The addresses from `first` to `last`. -/
def between (first last address : UInt16) : Bool := first ≤ address && address ≤ last

/-- The addresses of the first 16 KiB in which bit 8 is `bit`. -/
def wired (bit : Bool) (address : UInt16) : Bool :=
  address < 0x4000 && address.toNat.testBit 8 == bit

/-- Where the value that unlocks the memory window is stored. -/
def lockPort (controller : Controller) (address : UInt16) : Bool :=
  match controller with
  | .mbc2 => wired false address
  | _ => between 0x0000 0x1FFF address

/-- Where the number of the program bank is stored, or its low bits. -/
def bankPort (controller : Controller) (address : UInt16) : Bool :=
  match controller with
  | .mbc2 => wired true address
  | .mbc5 => between 0x2000 0x2FFF address
  | _ => between 0x2000 0x3FFF address

/-- Where the fifth controller takes the high bit of the program bank. -/
def highPort (address : UInt16) : Bool := between 0x3000 0x3FFF address

/-- Where the number of the memory bank is stored, and what else shares its register. -/
def selectorPort (address : UInt16) : Bool := between 0x4000 0x5FFF address

/-- Where the first controller is told what its upper bits act on: the rest of the program window, which
ends at 0x7FFF. -/
def modePort (address : UInt16) : Bool := 0x6000 ≤ address

/-- How many values the bank register of a controller tells apart. -/
def bankRange : Controller → Nat
  | .mbc1 => 32
  | .mbc2 => 16
  | .mbc3 => 128
  | .plain | .mbc5 => 256

namespace Stores
variable (stores : Stores)

/-- Whether the memory window is unlocked. -/
def unlocked (controller : Controller) : Bool := stores.value (lockPort controller) 0 % 16 == 0x0A

/-- The bank register of a controller that cannot select bank zero. -/
def bank (controller : Controller) : Nat :=
  notZero (stores.value (bankPort controller) 1 % bankRange controller)

/-- The two upper bits of the first controller. -/
def upper : Nat := stores.value selectorPort 0 % 4

/-- Whether the upper bits act on the first half of the program window and on the memory window. -/
def advanced : Bool := stores.value modePort 0 % 2 == 1

/-- What the third controller shows in the memory window. -/
def selector : Nat := stores.value selectorPort 0 % 16

/-- The nine bits of the fifth controller's program bank. -/
def wideBank : Nat := stores.value highPort 0 % 2 * 256 + stores.value (bankPort .mbc5) 1

/-- The memory bank of the fifth controller; a motor takes one bit of it. -/
def ramBank (rumble : Bool) : Nat := stores.value selectorPort 0 % if rumble then 8 else 16

end Stores
end Cartridge

open Cartridge (Operation Stores lastStores)

/-! ## Following the stores -/

/-- The first controller as the stores left it. -/
structure Mbc1.Follows (stores : Stores) (chip : Mbc1) : Prop where
  unlocked : chip.unlocked = stores.unlocked .mbc1
  low : chip.low = stores.bank .mbc1
  upper : chip.upper = stores.upper
  advanced : chip.advanced = stores.advanced

/-- The second controller as the stores left it. -/
structure Mbc2.Follows (stores : Stores) (chip : Mbc2) : Prop where
  unlocked : chip.unlocked = stores.unlocked .mbc2
  bank : chip.bank = stores.bank .mbc2

/-- The third controller as the stores left it; `timed` says whether there is a clock. -/
structure Mbc3.Follows (timed : Bool) (stores : Stores) (chip : Mbc3) : Prop where
  unlocked : chip.unlocked = stores.unlocked .mbc3
  bank : chip.bank = stores.bank .mbc3
  selector : chip.selector = stores.selector
  clock : chip.clock.isSome = timed

/-- The fifth controller as the stores left it; `rumble` says whether there is a motor. -/
structure Mbc5.Follows (rumble : Bool) (stores : Stores) (chip : Mbc5) : Prop where
  unlocked : chip.unlocked = stores.unlocked .mbc5
  bank : chip.bank = stores.wideBank
  ramBank : chip.ramBank = stores.ramBank rumble
  rumble : chip.rumble = rumble

/-- The controller of a kind of cartridge as the stores left it. -/
def Mapper.Follows (kind : Kind) (stores : Stores) : Mapper → Prop
  | .plain => kind.controller = .plain
  | .mbc1 chip => kind.controller = .mbc1 ∧ chip.Follows stores
  | .mbc2 chip => kind.controller = .mbc2 ∧ chip.Follows stores
  | .mbc3 chip => kind.controller = .mbc3 ∧ chip.Follows kind.clock stores
  | .mbc5 chip => kind.controller = .mbc5 ∧ chip.Follows kind.rumble stores

theorem hasBit_zero (byte : UInt8) : hasBit byte 0 = (byte.toNat % 2 == 1) := by
  show (byte.toNat / 1 % 2 == 1) = _
  rw [Nat.div_one]

/-- Bit 8 of an address is the lowest bit of its high byte. -/
theorem hasBit_highByte (address : UInt16) :
    hasBit (highByte address) 0 = address.toNat.testBit 8 := by
  rw [hasBit_zero, toNat_highByte, Nat.testBit_eq_decide_div_mod_eq]
  rfl

section Select
open Cartridge

variable {past : List Operation} (address : UInt16) (value : UInt8)

theorem Mbc1.Follows.select {chip : Mbc1} (h : chip.Follows (lastStores past)) :
    (chip.select address value).Follows (lastStores (.select address value :: past)) := by
  obtain ⟨unlocked, low, upper, advanced⟩ := h
  unfold Mbc1.select
  constructor
  · rw [Stores.unlocked, value_select]
    grind [lockPort, between, unlocks, Stores.unlocked]
  · rw [Stores.bank, value_select]
    grind [bankPort, between, bankRange, Stores.bank]
  · rw [Stores.upper, value_select]
    grind [selectorPort, between, Stores.upper]
  · rw [Stores.advanced, value_select]
    grind [modePort, hasBit_zero, Stores.advanced]

theorem Mbc2.Follows.select {chip : Mbc2} (h : chip.Follows (lastStores past)) :
    (chip.select address value).Follows (lastStores (.select address value :: past)) := by
  obtain ⟨unlocked, bank⟩ := h
  unfold Mbc2.select
  rw [hasBit_highByte]
  constructor
  · rw [Stores.unlocked, value_select]
    grind [lockPort, wired, unlocks, Stores.unlocked]
  · rw [Stores.bank, value_select]
    grind [bankPort, wired, bankRange, Stores.bank]

theorem Mbc3.Follows.select {chip : Mbc3} {timed : Bool} (h : chip.Follows timed (lastStores past))
    (now : UInt64) :
    (chip.select address value now).Follows timed (lastStores (.select address value :: past)) := by
  obtain ⟨unlocked, bank, selector, clock⟩ := h
  unfold Mbc3.select
  constructor
  · rw [Stores.unlocked, value_select]
    grind [lockPort, between, unlocks, Stores.unlocked]
  · rw [Stores.bank, value_select]
    grind [bankPort, between, bankRange, Stores.bank]
  · rw [Stores.selector, value_select]
    grind [selectorPort, between, Stores.selector]
  · -- A latch does not take the clock away.
    grind [Option.isSome_map]

theorem Mbc5.Follows.select {chip : Mbc5} {rumble : Bool}
    (h : chip.Follows rumble (lastStores past)) :
    (chip.select address value).Follows rumble (lastStores (.select address value :: past)) := by
  obtain ⟨unlocked, bank, ramBank, rumbles⟩ := h
  unfold Mbc5.select
  constructor
  · rw [Stores.unlocked, value_select]
    grind [lockPort, between, unlocks, Stores.unlocked]
  · -- Each of the two stores leaves the other's bits alone.
    have low : (lastStores past).value (bankPort .mbc5) 1 < 256 := UInt8.toNat_lt _
    rw [Stores.wideBank, value_select, value_select]
    grind [bankPort, highPort, between, Stores.wideBank]
  · rw [Stores.ramBank, value_select]
    grind [selectorPort, between, Stores.ramBank]
  · grind

/-- **A store into the program window fills the registers that answer there**, and no others. -/
theorem Mapper.Follows.select {mapper : Mapper} {kind : Kind}
    (h : mapper.Follows kind (lastStores past)) (now : UInt64) :
    (mapper.select address value now).Follows kind
      (lastStores (.select address value :: past)) := by
  cases mapper with
  | plain => exact h
  | mbc1 chip => exact ⟨h.1, h.2.select address value⟩
  | mbc2 chip => exact ⟨h.1, h.2.select address value⟩
  | mbc3 chip => exact ⟨h.1, h.2.select address value now⟩
  | mbc5 chip => exact ⟨h.1, h.2.select address value⟩

end Select

namespace Mapper

/-- Writing a register of the clock touches no other register. -/
theorem Follows.writeClock {mapper : Mapper} {kind : Kind} {stores : Stores}
    (h : mapper.Follows kind stores) (register : ClockRegister) (value : UInt8) (now : UInt64) :
    (mapper.writeClock register value now).Follows kind stores := by
  cases mapper with
  | mbc3 chip =>
    obtain ⟨controller, unlocked, bank, selector, clock⟩ := h
    exact ⟨controller, unlocked, bank, selector, (Option.isSome_map ..).trans clock⟩
  | plain | mbc1 | mbc2 | mbc5 => exact h

/-- At first the registers are as if nothing had been stored. -/
theorem follows_ofKind (kind : Kind) (now : UInt64) :
    (ofKind kind now).Follows kind (lastStores []) := by
  unfold ofKind
  cases controller : kind.controller with
  | plain => exact controller
  | mbc1 => exact ⟨controller, rfl, rfl, rfl, rfl⟩
  | mbc2 => exact ⟨controller, rfl, rfl⟩
  | mbc3 =>
    refine ⟨controller, rfl, rfl, rfl, ?_⟩
    cases kind.clock <;> rfl
  | mbc5 =>
    refine ⟨controller, rfl, rfl, ?_, rfl⟩
    cases kind.rumble <;> rfl

end Mapper

namespace Cartridge

/-! ## Cartridges as they come about -/

/-- A store into the memory window, by what it meets there. -/
theorem writeRam_eq (cart : Cartridge) (address : UInt16) (value : UInt8) :
    cart.writeRam address value =
      match cart.target address with
      | .nothing => cart
      | .byte offset => { cart with ram := cart.ram.write offset value }
      | .nibble offset => { cart with ram := cart.ram.write offset (value &&& 0x0F) }
      | .clock register =>
        { cart with mapper := cart.mapper.writeClock register value cart.now } := by
  obtain ⟨header, rom, ram, mapper, now⟩ := cart
  rfl

/-- **Nothing changes the image.** -/
theorem rom_after (cart : Cartridge) (past : List Operation) : (cart.after past).rom = cart.rom := by
  induction past with
  | nil => rfl
  | cons last earlier ih =>
    rw [← ih]
    cases last with
    | store address value =>
      show ((cart.after earlier).writeRam address value).rom = _
      rw [writeRam_eq]
      split <;> rfl
    | select | read | load | elapse => rfl

variable {cart : Cartridge}

/-- **Every operation keeps the registers at what was stored last.** -/
theorem follows_perform {kind : Kind} {past : List Operation}
    (h : cart.mapper.Follows kind (lastStores past)) (operation : Operation) :
    (cart.perform operation).mapper.Follows kind (lastStores (operation :: past)) := by
  cases operation with
  | select address value => exact h.select address value cart.now
  | store address value =>
    show (cart.writeRam address value).mapper.Follows kind (lastStores past)
    rw [writeRam_eq]
    cases cart.target address with
    | nothing | byte | nibble => exact h
    | clock register => exact h.writeClock register value cart.now
  | read | load | elapse => exact h

/-- What an accepted image is made into. -/
structure New (image : ByteArray) (cart : Cartridge) : Prop where
  long : Header.limit ≤ image.size
  rom : cart.rom = ⟨image⟩
  ram : cart.ram = .zeroed cart.header.fittedRam
  mapper : cart.mapper = .ofKind cart.header.kind cart.now

theorem new_of_ofImage {image : ByteArray} {now : UInt64} (accepted : ofImage image now = .ok cart) :
    New image cart := by
  unfold ofImage at accepted
  cases read : Header.read image with
  | error fault =>
    rw [read] at accepted
    cases accepted
  | ok header =>
    rw [read] at accepted
    cases accepted
    refine ⟨?_, rfl, rfl, rfl⟩
    refine Nat.le_of_not_lt fun short => ?_
    rw [Header.read, if_pos short] at read
    cases read

/-- **Whatever is done with a cartridge, its registers hold what was stored in them last.** -/
theorem New.follows {image : ByteArray} (new : New image cart) (past : List Operation) :
    (cart.after past).mapper.Follows cart.header.kind (lastStores past) := by
  induction past with
  | nil =>
    rw [after, new.mapper]
    exact Mapper.follows_ofKind _ _
  | cons last earlier ih => exact follows_perform ih last

/-! ## Images that are accepted -/

/-- An image is accepted if all fields of its header are known. -/
theorem exists_ofImage {image : ByteArray} {kind : Kind} {romSize ramSize : Nat} {name : String}
    (now : UInt64) (long : Header.limit ≤ image.size)
    (code : Kind.ofCode? (Header.byteAt image 0x147) = some kind)
    (program : Header.romSize? (Header.byteAt image 0x148) = some romSize)
    (memory : Header.readRamSize kind image = .ok ramSize)
    (publisher : Header.readLicensee image = .ok name) :
    ∃ cart, ofImage image now = .ok cart ∧ cart.header.kind = kind ∧
      cart.header.ramSize = ramSize := by
  unfold ofImage Header.read
  rw [if_neg (Nat.not_lt.mpr long), code, program]
  dsimp only
  rw [memory, publisher]
  exact ⟨_, rfl, rfl, rfl⟩

/-- An image of zeros, but for the codes of a kind and of a memory, and the number of each bank at its
start. -/
def marked (kind ram : UInt8) (size : Nat) : ByteArray :=
  ⟨Array.ofFn fun offset : Fin size =>
    if offset.val = 0x147 then kind else if offset.val = 0x149 then ram
    else if offset.val % 0x4000 = 0 then UInt8.ofNat (offset.val / 0x4000) else 0⟩

theorem size_marked (kind ram : UInt8) (size : Nat) : (marked kind ram size).size = size :=
  Array.size_ofFn

theorem getElem?_marked (kind ram : UInt8) {size offset : Nat} (inside : offset < size) :
    (marked kind ram size)[offset]? = some (
      if offset = 0x147 then kind else if offset = 0x149 then ram
      else if offset % 0x4000 = 0 then UInt8.ofNat (offset / 0x4000) else 0) := by
  rw [getElem?_pos (marked kind ram size) offset (by rwa [size_marked])]
  exact congrArg some (Array.getElem_ofFn ..)

theorem byteAt_of_getElem? {image : ByteArray} {offset : Nat} {byte : UInt8}
    (found : image[offset]? = some byte) : Header.byteAt image offset = byte := by
  by_cases inside : offset < image.size
  · rw [getElem?_pos image offset inside] at found
    rw [Header.byteAt, dif_pos inside]
    exact Option.some.inj found
  · rw [getElem?_neg image offset inside] at found
    cases found

theorem exists_marked {code ram : UInt8} {size ramSize : Nat} {kind : Kind} (now : UInt64)
    (long : Header.limit ≤ size) (known : Kind.ofCode? code = some kind)
    (apart : kind.controller ≠ .mbc2) (memory : Header.ramSize? ram = some ramSize) :
    ∃ cart, ofImage (marked code ram size) now = .ok cart ∧ cart.header.kind = kind ∧
      cart.header.ramSize = ramSize := by
  have byte {offset : Nat} (inside : offset < Header.limit) :=
    byteAt_of_getElem? (getElem?_marked code ram (Nat.lt_of_lt_of_le inside long))
  have program : Header.romSize? (Header.byteAt (marked code ram size) 0x148) = some 0x8000 := by
    rw [byte (by decide)]
    rfl
  have ramByte : Header.byteAt (marked code ram size) 0x149 = ram := byte (by decide)
  have publisher : Header.readLicensee (marked code ram size) = .ok "None" := by
    rw [Header.readLicensee, byte (by decide)]
    rfl
  refine exists_ofImage now (by rwa [size_marked]) ?_ program ?_ publisher
  · rw [byte (by decide)]
    exact known
  · rw [Header.readRamSize, if_neg apart, ramByte, memory]

end Cartridge
end DotMatrix
