import DotMatrix.Proofs.Cartridge.Registers
import DotMatrix.Proofs.Memory.Banked

/-! # Banks of the program

The program window shows two banks of the image.  Which ones is a number made of the registers of the
controller, reduced by the number of banks that there are (`New.romBank_after`, `New.fixedBank_after`).
In an image of whole banks the byte is then found in that bank (`shows_banks`).

A controller that does not select bank zero puts one in its place, but does so in its own register: before
the upper bits of the first controller are joined to it, and before the reduction.  In an image of an odd
number of banks the reduction can lead back to bank zero, and `floor_holds_iff` says for which numbers.
-/
namespace DotMatrix

namespace Cartridge

/-! ## Numbers of banks -/

namespace Stores
variable (stores : Stores)

/-- The number of the bank in the second half of the program window. -/
def romBank (kind : Kind) : Nat :=
  match kind.controller with
  | .plain => 1
  | .mbc1 => 32 * stores.upper + stores.bank .mbc1
  | .mbc2 => stores.bank .mbc2
  | .mbc3 => stores.bank .mbc3
  | .mbc5 => stores.wideBank

/-- The number of the bank in the first half of the program window. -/
def fixedBank (kind : Kind) : Nat :=
  match kind.controller with
  | .mbc1 => if stores.advanced then 32 * stores.upper else 0
  | _ => 0

end Stores

section Numbers
variable {mapper : Mapper} {kind : Kind} {stores : Stores}

theorem romBank_of_follows (h : mapper.Follows kind stores) :
    mapper.romBank = stores.romBank kind := by
  unfold Stores.romBank
  cases mapper with
  | plain => rw [show kind.controller = .plain from h]; rfl
  | mbc1 chip =>
    obtain ⟨controller, -, low, upper, -⟩ := h
    rw [controller, Mapper.romBank, low, upper, Nat.mul_comm]
  | mbc2 chip => rw [h.1]; exact h.2.bank
  | mbc3 chip => rw [h.1]; exact h.2.bank
  | mbc5 chip => rw [h.1]; exact h.2.bank

theorem fixedBank_of_follows (h : mapper.Follows kind stores) :
    mapper.fixedBank = stores.fixedBank kind := by
  unfold Stores.fixedBank
  cases mapper with
  | plain => rw [show kind.controller = .plain from h]; rfl
  | mbc1 chip =>
    obtain ⟨controller, -, -, upper, advanced⟩ := h
    rw [controller, Mapper.fixedBank, upper, advanced, Nat.mul_comm]
  | mbc2 chip | mbc3 chip | mbc5 chip => rw [h.1]; rfl

end Numbers

variable {image : ByteArray} {cart : Cartridge}

theorem bankCount_after (cart : Cartridge) (past : List Operation) :
    (cart.after past).bankCount = cart.bankCount := by
  rw [bankCount, rom_after, bankCount]

theorem New.bankCount_eq (new : New image cart) :
    cart.bankCount = max 1 ((image.size + 0x3FFF) / 0x4000) := by
  rw [bankCount, new.rom]
  rfl

/-- An image of whole banks has as many as fit. -/
theorem New.bankCount_of_whole (new : New image cart) {banks : Nat}
    (whole : image.size = banks * 0x4000) : cart.bankCount = banks := by
  have long := new.long
  rw [new.bankCount_eq]
  unfold Header.limit at long
  omega

/-- The bank in the second half of the program window. -/
theorem New.romBank_after (new : New image cart) (past : List Operation) :
    (cart.after past).romBank = (lastStores past).romBank cart.header.kind % cart.bankCount := by
  rw [romBank, romBank_of_follows (new.follows past), bankCount_after]

/-- The bank in the first half of the program window. -/
theorem New.fixedBank_after (new : New image cart) (past : List Operation) :
    (cart.after past).fixedBank = (lastStores past).fixedBank cart.header.kind % cart.bankCount := by
  rw [fixedBank, fixedBank_of_follows (new.follows past), bankCount_after]

/-! ## Whole banks -/

/-- What the program window shows of an image that consists of `banks` banks, after operations. -/
structure ShowsBanks (image : ByteArray) (banks : Nat) (kind : Kind) (past : List Operation)
    (cart : Cartridge) : Prop where
  /-- The image is what it was. -/
  unchanged : cart.rom.bytes = image
  /-- The second half shows the selected bank. -/
  second : ∀ address : UInt16, 0x4000 ≤ address → address ≤ 0x7FFF →
    image[(lastStores past).romBank kind % banks * 0x4000 + address.toNat % 0x4000]? =
      some (cart.readRom address)
  /-- The first half shows bank zero, or the one that the upper bits of the first controller select. -/
  first : ∀ address : UInt16, address ≤ 0x3FFF →
    image[(lastStores past).fixedBank kind % banks * 0x4000 + address.toNat]? =
      some (cart.readRom address)

/-- **The program window shows the banks that were selected last**, reduced by the number of banks there
are; for a power of two that leaves the low bits of the selection.  The image never changes. -/
theorem shows_banks {now : UInt64} (accepted : ofImage image now = .ok cart) {banks : Nat}
    (whole : image.size = banks * 0x4000) (past : List Operation) :
    ShowsBanks image banks cart.header.kind past (cart.after past) := by
  have new := new_of_ofImage accepted
  have rom : (cart.after past).rom = ⟨image⟩ := (rom_after cart past).trans new.rom
  have count : cart.bankCount = banks := new.bankCount_of_whole whole
  have present : 0 < banks := by
    rw [← count]
    exact Nat.le_max_left ..
  -- A byte of a bank that is there lies inside the image.
  have shown (bank offset : Nat) (inside : offset < 0x4000) :
      image[bank % banks * 0x4000 + offset]? =
        some ((cart.after past).rom.read (bank % banks * 0x4000 + offset)) := by
    have below : bank % banks + 1 ≤ banks := Nat.mod_lt bank present
    have within : bank % banks * 0x4000 + offset < (⟨image⟩ : Banked).size := by
      show _ < image.size
      omega
    rw [rom]
    exact Banked.getElem?_read within
  refine ⟨by rw [rom], ?_, ?_⟩
  · intro address low high
    rw [UInt16.le_iff_toNat_le] at low high
    have half : ¬ address.toNat % 0x8000 < 0x4000 := by
      simp only [UInt16.reduceToNat] at low high
      omega
    have offset : address.toNat % 0x8000 % 0x4000 = address.toNat % 0x4000 := by omega
    rw [shown _ _ (Nat.mod_lt _ (by decide)), readRom]
    rw [if_neg half, new.romBank_after, count, offset]
  · intro address high
    rw [UInt16.le_iff_toNat_le] at high
    simp only [UInt16.reduceToNat] at high
    have half : address.toNat % 0x8000 < 0x4000 := by omega
    have offset : address.toNat % 0x8000 % 0x4000 = address.toNat := by omega
    rw [shown _ _ (by omega), readRom]
    rw [if_pos half, new.fixedBank_after, count, offset]

/-- Every bank of a marked image begins with its number. -/
theorem marked_bank (code ram : UInt8) {bank banks : Nat} (inside : bank < banks) :
    (marked code ram (banks * 0x4000))[bank * 0x4000]? = some (UInt8.ofNat bank) := by
  rw [getElem?_marked code ram (by omega), if_neg (by omega), if_neg (by omega),
    if_pos (Nat.mul_mod_left ..), Nat.mul_div_cancel _ (by decide)]

/-- A cartridge with the first controller and any number of banks. -/
theorem exists_mbc1 {banks : Nat} (present : 0 < banks) :
    ∃ cart, ofImage (marked 0x01 0x00 (banks * 0x4000)) 0 = .ok cart ∧
      cart.header.kind = { code := 0x01, controller := .mbc1 } ∧ cart.bankCount = banks := by
  have long : Header.limit ≤ banks * 0x4000 := by
    unfold Header.limit
    omega
  obtain ⟨cart, accepted, kind, -⟩ := exists_marked 0 long (rfl : Kind.ofCode? 0x01 = _) (by decide)
    (rfl : Header.ramSize? 0x00 = _)
  exact ⟨cart, accepted, kind, (new_of_ofImage accepted).bankCount_of_whole (size_marked ..)⟩

/-- 64 banks of the first controller: bank 97 of the selection is bank 33, and bank 96 is bank 32. -/
theorem shows_banks_in_quarter :
    ∃ cart, ofImage (marked 0x01 0x00 (64 * 0x4000)) 0 = .ok cart ∧
      let after := cart.after [.select 0x6000 0x01, .select 0x2000 0xE0, .select 0x4000 0x03]
      after.readRom 0x4000 = 33 ∧ after.readRom 0x0000 = 32 := by
  obtain ⟨cart, accepted, kind, -⟩ := exists_mbc1 (by decide : 0 < 64)
  refine ⟨cart, accepted, ?_⟩
  intro after
  have shows := shows_banks accepted (size_marked ..)
    [.select 0x6000 0x01, .select 0x2000 0xE0, .select 0x4000 0x03]
  rw [kind] at shows
  have second := shows.second 0x4000 (by decide) (by decide)
  have first := shows.first 0x0000 (by decide)
  constructor
  · rw [show Stores.romBank _ _ % 64 * 0x4000 + _ = 33 * 0x4000 by decide,
      marked_bank 0x01 0x00 (by decide : 33 < 64)] at second
    exact (Option.some.inj second).symm
  · rw [show Stores.fixedBank _ _ % 64 * 0x4000 + _ = 32 * 0x4000 by decide,
      marked_bank 0x01 0x00 (by decide : 32 < 64)] at first
    exact (Option.some.inj first).symm

/-! ## Bank zero -/

/-- The last store into the bank register had none of the bits set that the register keeps. -/
def SelectsZero (kind : Kind) (past : List Operation) : Prop :=
  ∃ value, lastStores past (bankPort kind.controller) = some value ∧
    value.toNat % bankRange kind.controller = 0

/-- The controllers that do not select bank zero. -/
def floored : List Controller := [.mbc1, .mbc2, .mbc3]

/-- The numbers of banks by which one of the selections 33, 65 and 97 is reduced to zero. -/
def wrapping : List Nat := [3, 5, 11, 13, 33, 65, 97]

theorem mem_wrapping_iff {count : Nat} (several : 1 < count) :
    count ∈ wrapping ↔ ∃ upper < 4, (32 * upper + 1) % count = 0 := by
  constructor
  · intro member
    simp only [wrapping, List.mem_cons, List.not_mem_nil, or_false] at member
    rcases member with rfl | rfl | rfl | rfl | rfl | rfl | rfl
    · exact ⟨1, by decide⟩
    · exact ⟨2, by decide⟩
    · exact ⟨1, by decide⟩
    · exact ⟨2, by decide⟩
    · exact ⟨1, by decide⟩
    · exact ⟨2, by decide⟩
    · exact ⟨3, by decide⟩
  · rintro ⟨upper, small, zero⟩
    have divides : count ≤ 32 * upper + 1 :=
      Nat.le_of_dvd (Nat.succ_pos _) (Nat.dvd_of_mod_eq_zero zero)
    have table : ∀ (count : Fin 98) (upper : Fin 4), 1 < count.val →
        (32 * upper.val + 1) % count.val = 0 → count.val ∈ wrapping := by decide
    exact table ⟨count, by omega⟩ ⟨upper, small⟩ several zero

theorem SelectsZero.bank {kind : Kind} {past : List Operation} (zero : SelectsZero kind past) :
    (lastStores past).bank kind.controller = 1 := by
  obtain ⟨value, stored, none⟩ := zero
  rw [Stores.bank, Stores.value, stored, Option.getD_some, none]
  rfl

/-- **The floor holds except for the first controller on some odd numbers of banks.**  Whatever else is
stored, selecting bank zero shows another bank exactly if no setting of the upper bits leads back to it. -/
theorem floor_holds_iff {now : UInt64} (accepted : ofImage image now = .ok cart)
    (floor : cart.header.kind.controller ∈ floored) (long : 0x4000 < image.size) :
    (∀ past, SelectsZero cart.header.kind past → (cart.after past).romBank ≠ 0) ↔
      ¬ (cart.header.kind.controller = .mbc1 ∧ cart.bankCount ∈ wrapping) := by
  have new := new_of_ofImage accepted
  have several : 1 < cart.bankCount := by
    rw [new.bankCount_eq]
    omega
  have small (past : List Operation) : (lastStores past).upper < 4 := Nat.mod_lt _ (by decide)
  constructor
  · rintro holds ⟨controller, member⟩
    obtain ⟨upper, small, zero⟩ := (mem_wrapping_iff several).mp member
    -- Set the upper bits, and select bank zero.
    let past : List Operation := [.select 0x2000 0, .select 0x4000 (UInt8.ofNat upper)]
    have selected : SelectsZero cart.header.kind past := by
      refine ⟨0, ?_, Nat.zero_mod _⟩
      rw [controller]
      rfl
    have raised : (lastStores past).upper = upper := by
      show (UInt8.ofNat upper).toNat % 4 = upper
      rw [UInt8.toNat_ofNat']
      omega
    have one := selected.bank
    rw [controller] at one
    refine holds past selected ?_
    rw [new.romBank_after, Stores.romBank, controller]
    show (32 * (lastStores past).upper + (lastStores past).bank .mbc1) % cart.bankCount = 0
    rw [raised, one]
    exact zero
  · intro apart past zero
    rw [new.romBank_after, Stores.romBank]
    have one := zero.bank
    simp only [floored, List.mem_cons, List.not_mem_nil, or_false] at floor
    rcases floor with controller | controller | controller
    · rw [controller] at one ⊢
      rw [one]
      intro wraps
      exact apart ⟨controller, (mem_wrapping_iff several).mpr ⟨_, small past, wraps⟩⟩
    · rw [controller] at one ⊢
      rw [one, Nat.mod_eq_of_lt several]
      exact Nat.one_ne_zero
    · rw [controller] at one ⊢
      rw [one, Nat.mod_eq_of_lt several]
      exact Nat.one_ne_zero

/-- Three banks of the first controller, on which the floor does not hold. -/
theorem floor_holds_iff_at_three :
    ∃ cart, ofImage (marked 0x01 0x00 (3 * 0x4000)) 0 = .ok cart ∧
      ¬ ∀ past, SelectsZero cart.header.kind past → (cart.after past).romBank ≠ 0 := by
  obtain ⟨cart, accepted, kind, count⟩ := exists_mbc1 (by decide : 0 < 3)
  refine ⟨cart, accepted, fun holds => ?_⟩
  have long : 0x4000 < (marked 0x01 0x00 (3 * 0x4000)).size := by
    rw [size_marked]
    omega
  refine (floor_holds_iff accepted (by rw [kind]; decide) long).mp holds ⟨?_, ?_⟩
  · rw [kind]
  · rw [count]
    decide

/-- **Selecting bank zero can show bank zero**, if the upper bits of the first controller are set. -/
theorem not_floored : ¬ ∀ (image : ByteArray) (now : UInt64) (cart : Cartridge),
    ofImage image now = .ok cart → cart.header.kind.controller ∈ floored → 0x4000 < image.size →
    ∀ past, SelectsZero cart.header.kind past → (cart.after past).romBank ≠ 0 := by
  intro always
  obtain ⟨cart, accepted, kind, count⟩ := exists_mbc1 (by decide : 0 < 3)
  have long : 0x4000 < (marked 0x01 0x00 (3 * 0x4000)).size := by
    rw [size_marked]
    omega
  refine always _ 0 cart accepted (by rw [kind]; decide) long
    [.select 0x4000 1, .select 0x2000 0] ?_ ?_
  · rw [kind]
    exact ⟨0, rfl, rfl⟩
  · rw [(new_of_ofImage accepted).romBank_after, count, kind]
    decide

end Cartridge
end DotMatrix
