import DotMatrix.Proofs.Memory.Banked
import DotMatrix.Proofs.Narrow.Clock

/-! # Cartridges in registers

The program and the memory are images of a length that is not zero, or are never looked into.  The number of
a bank is kept in a register of a controller; that bounds where it can lead.
-/
namespace DotMatrix.Narrow

/-! ## Byte images -/

/-- The byte at an offset, which counts modulo the length. -/
def readBanked (image : Banked) (offset : Nat) : Option UInt8 :=
  if image.size = 0 then some 0xFF
  else do
    let place ← remainder offset image.size
    image.bytes.data[place]?

/-- Store a byte. -/
def writeBanked (image : Banked) (offset : Nat) (value : UInt8) : Option Banked :=
  if image.size = 0 then some image
  else do
    let place ← remainder offset image.size
    let _ ← image.bytes.data[place]?
    return image.write offset value

/-- Copy over the start of the image. -/
def loadBanked (image : Banked) (data : ByteArray) : Option Banked := do
  let _ ← upTo image.size (min data.size image.size)
  let _ ← upTo data.size (min data.size image.size)
  return image.load data

theorem readBanked_eq (image : Banked) (offset : Nat) :
    readBanked image offset = some (image.read offset) := by
  unfold readBanked
  split
  · rename_i empty
    rw [Banked.read_of_empty empty]
  · rename_i nonempty
    have filled := Nat.pos_of_ne_zero nonempty
    refine bind_of_eq (remainder_of_pos filled) ?_
    rw [getElem?_data]
    exact Banked.getElem?_mod filled offset

theorem writeBanked_eq (image : Banked) (offset : Nat) (value : UInt8) :
    writeBanked image offset value = some (image.write offset value) := by
  unfold writeBanked
  split
  · rename_i empty
    rw [Banked.write_of_empty empty]
  · rename_i nonempty
    have filled := Nat.pos_of_ne_zero nonempty
    have there : image.bytes.data[offset % image.size]? = some (image.read offset) := by
      rw [getElem?_data]
      exact Banked.getElem?_mod filled offset
    exact bind_of_eq (remainder_of_pos filled) (bind_of_eq there rfl)

theorem loadBanked_eq (image : Banked) (data : ByteArray) : loadBanked image data = some (image.load data) :=
  bind_of_eq (upTo_of_le (Nat.min_le_right ..)) (bind_of_eq (upTo_of_le (Nat.min_le_left ..)) rfl)

/-! ## The windows -/

/-- The byte at an address of the program window. -/
def readRom (cart : Cartridge) (address : UInt16) : Option UInt8 := do
  let offset := address.toNat % 0x8000
  let selected := if offset < 0x4000 then cart.mapper.fixedBank else cart.mapper.romBank
  let bank ← remainder selected cart.bankCount
  let start ← fit .quad (bank * 0x4000)
  let place ← fit .quad (start + offset % 0x4000)
  readBanked cart.rom place

/-- A store into the program window. -/
def select (mapper : Mapper) (address : UInt16) (value : UInt8) (now : UInt64) : Option Mapper :=
  match mapper with
  | .mbc3 chip =>
    if address < 0x6000 then some (.mbc3 (chip.select address value now))
    else do
      let clock ← (if chip.armed && value == 1 then chip.clock.mapM (latch · now) else some chip.clock)
      return .mbc3 { chip with armed := value == 0, clock := clock }
  | other => some (other.select address value now)

/-- A byte of a memory bank. -/
def bankByte (bank offset : Nat) : Option Target := do
  let start ← fit .quad (bank * 0x2000)
  let place ← fit .quad (start + offset)
  return .byte place

/-- What the memory window shows at an offset into it. -/
def target (mapper : Mapper) (offset : Nat) : Option Target :=
  match mapper with
  | .mbc1 chip => if chip.unlocked then bankByte chip.ramBank offset else some .nothing
  | .mbc3 chip =>
    if chip.unlocked then
      if chip.selector < 4 then bankByte chip.selector offset else some (chip.target offset)
    else some .nothing
  | .mbc5 chip => if chip.unlocked then bankByte chip.ramBank offset else some .nothing
  | other => some (other.target offset)

/-- The byte at an address of the memory window. -/
def readRam (cart : Cartridge) (address : UInt16) : Option UInt8 := do
  match ← target cart.mapper (address.toNat % 0x2000) with
  | .nothing => return 0xFF
  | .byte offset => readBanked cart.ram offset
  | .nibble offset =>
    let byte ← readBanked cart.ram offset
    return 0xF0 ||| (byte &&& 0x0F)
  | .clock register => return cart.mapper.readClock register

/-- Write a register of the clock. -/
def writeRegister (mapper : Mapper) (register : ClockRegister) (value : UInt8) (now : UInt64) :
    Option Mapper :=
  match mapper with
  | .mbc3 chip => do
    let clock ← chip.clock.mapM (writeClock · register value now)
    return .mbc3 { chip with clock := clock }
  | other => some other

/-- Store into the memory window. -/
def writeRam (cart : Cartridge) (address : UInt16) (value : UInt8) : Option Cartridge := do
  match ← target cart.mapper (address.toNat % 0x2000) with
  | .nothing => return cart
  | .byte offset =>
    let ram ← writeBanked cart.ram offset value
    return { cart with ram := ram }
  | .nibble offset =>
    let ram ← writeBanked cart.ram offset (value &&& 0x0F)
    return { cart with ram := ram }
  | .clock register =>
    let mapper ← writeRegister cart.mapper register value cart.now
    return { cart with mapper := mapper }

/-- A store into the program window goes to the controller. -/
def writeRom (cart : Cartridge) (address : UInt16) (value : UInt8) : Option Cartridge := do
  let mapper ← select cart.mapper address value cart.now
  return { cart with mapper := mapper }

/-- What an operation makes of a cartridge. -/
def operate (cart : Cartridge) : Cartridge.Operation → Option Cartridge
  | .select address value => writeRom cart address value
  | .store address value => writeRam cart address value
  | .read address => do
    let _ ← readRom cart address
    let _ ← readRam cart address
    return cart
  | .load saved => do
    let ram ← loadBanked cart.ram saved
    return { cart with ram := ram }
  | .elapse nanos => some (cart.elapse nanos)

theorem bankByte_eq {bank offset : Nat} (few : bank < 16) (inside : offset < 0x2000) :
    bankByte bank offset = some (.byte (bank * 0x2000 + offset)) :=
  bind_of_eq (fit_quad (by omega)) (bind_of_eq (fit_quad (by omega)) rfl)

/-- What is done to the clock, if there is one. -/
theorem mapM_clock {clock : Option Clock} {checked : Clock → Option Clock} {plain : Clock → Clock}
    (each : ∀ clock, clock.InRange → checked clock = some (plain clock))
    (h : ∀ there, clock = some there → there.InRange) : clock.mapM checked = some (clock.map plain) := by
  cases clock with
  | none => rfl
  | some there =>
    rw [Option.mapM_some, each there (h there rfl)]
    rfl

section
variable {mapper : Mapper} (h : mapper.InRange)
include h

theorem target_eq {offset : Nat} (inside : offset < 0x2000) :
    target mapper offset = some (mapper.target offset) := by
  cases mapper with
  | plain | mbc2 => rfl
  | mbc1 chip =>
    have upper := h.upper
    have few : chip.ramBank < 16 := by
      unfold Mbc1.ramBank
      split <;> omega
    unfold target
    dsimp only
    rw [bankByte_eq few inside]
    exact (apply_ite some _ _ _).symm
  | mbc3 chip =>
    have shown : (if chip.selector < 4 then bankByte chip.selector offset else some (chip.target offset)) =
        some (chip.target offset) := by
      unfold Mbc3.target
      split
      · exact bankByte_eq h.selector inside
      · rfl
    unfold target
    dsimp only
    rw [shown]
    exact (apply_ite some _ _ _).symm
  | mbc5 chip =>
    unfold target
    dsimp only
    rw [bankByte_eq h.ramBank inside]
    exact (apply_ite some _ _ _).symm

theorem select_eq (address : UInt16) (value : UInt8) (now : UInt64) :
    select mapper address value now = some (mapper.select address value now) := by
  cases mapper with
  | plain | mbc1 | mbc2 | mbc5 => rfl
  | mbc3 chip =>
    unfold select Mapper.select
    dsimp only
    split
    · rfl
    · rename_i high
      have clock : (if chip.armed && value == 1 then chip.clock.mapM (latch · now) else some chip.clock) =
          some (if chip.armed && value == 1 then chip.clock.map (·.latch now) else chip.clock) := by
        rw [mapM_clock (fun _ clock => latch_eq clock now) h.clock]
        exact (apply_ite some _ _ _).symm
      refine bind_of_eq clock (congrArg (fun chip => some (Mapper.mbc3 chip)) ?_)
      have later : ¬ address < 0x2000 ∧ ¬ address < 0x4000 := by
        simp only [UInt16.lt_iff_toNat_lt] at high ⊢
        exact ⟨fun low => high (Nat.lt_trans low (by decide)), fun low => high (Nat.lt_trans low (by decide))⟩
      rw [Mbc3.select, if_neg later.1, if_neg later.2, if_neg high]

theorem writeRegister_eq (register : ClockRegister) (value : UInt8) (now : UInt64) :
    writeRegister mapper register value now = some (mapper.writeClock register value now) := by
  cases mapper with
  | plain | mbc1 | mbc2 | mbc5 => rfl
  | mbc3 chip =>
    have written := mapM_clock (fun _ clock => writeClock_eq clock register value now) h.clock
    exact bind_of_eq written rfl

end

section
variable {cart : Cartridge} (h : cart.InRange)
include h

theorem readRom_eq (address : UInt16) : readRom cart address = some (cart.readRom address) := by
  have one : 0 < cart.bankCount := Nat.lt_of_lt_of_le Nat.zero_lt_one (Nat.le_max_left ..)
  have selected : (if address.toNat % 0x8000 < 0x4000 then cart.mapper.fixedBank
      else cart.mapper.romBank) < 512 := by
    split
    · exact h.fixedBank_lt
    · exact h.romBank_lt
  -- An image can have any number of banks; it is the register that keeps the bank small.
  have bank := Nat.lt_of_le_of_lt (Nat.mod_le _ cart.bankCount) selected
  refine bind_of_eq (remainder_of_pos one) ?_
  refine bind_of_eq (fit_quad (by omega)) ?_
  refine bind_of_eq (fit_quad (by omega)) ?_
  rw [readBanked_eq, apply_ite (· % cart.bankCount)]
  rfl

theorem readRam_eq (address : UInt16) : readRam cart address = some (cart.readRam address) := by
  have inside : address.toNat % 0x2000 < 0x2000 := Nat.mod_lt _ (by decide)
  refine bind_of_eq (target_eq h inside) ?_
  unfold Cartridge.readRam Cartridge.target
  cases cart.mapper.target (address.toNat % 0x2000) with
  | nothing | clock => rfl
  | byte offset => exact readBanked_eq cart.ram offset
  | nibble offset => exact bind_of_eq (readBanked_eq cart.ram offset) rfl

theorem writeRom_eq (address : UInt16) (value : UInt8) :
    writeRom cart address value = some (cart.writeRom address value) :=
  bind_of_eq (select_eq h address value cart.now) rfl

theorem writeRam_eq (address : UInt16) (value : UInt8) :
    writeRam cart address value = some (cart.writeRam address value) := by
  have inside : address.toNat % 0x2000 < 0x2000 := Nat.mod_lt _ (by decide)
  refine bind_of_eq (target_eq h inside) ?_
  rw [Cartridge.writeRam_eq]
  unfold Cartridge.target
  cases cart.mapper.target (address.toNat % 0x2000) with
  | nothing => rfl
  | byte offset => exact bind_of_eq (writeBanked_eq ..) rfl
  | nibble offset => exact bind_of_eq (writeBanked_eq ..) rfl
  | clock register => exact bind_of_eq (writeRegister_eq h register value cart.now) rfl

/-- **Whatever is done with a cartridge has a result.** -/
theorem operate_eq (operation : Cartridge.Operation) :
    operate cart operation = some (cart.perform operation) := by
  cases operation with
  | select address value => exact writeRom_eq h address value
  | store address value => exact writeRam_eq h address value
  | read address => exact bind_of_eq (readRom_eq h address) (bind_of_eq (readRam_eq h address) rfl)
  | load saved => exact bind_of_eq (loadBanked_eq cart.ram saved) rfl
  | elapse nanos => rfl

end
end DotMatrix.Narrow
