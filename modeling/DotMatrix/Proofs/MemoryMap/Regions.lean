import DotMatrix.MemoryMap

/-! # Where the regions lie

`Region.of` finds the region of an address by comparing it with one bound after the other.  What this
comes to is one interval for each region, or a single address, or the registers that are left over
(`located_of`); and since the intervals do not meet, an address in one of them has its region
(`Located.of_eq`).
-/
namespace DotMatrix
namespace Region

/-- The addresses of a region. -/
inductive Located (address : UInt16) : Region → Prop where
  | program (upper : address.toNat < 0x8000) : Located address program
  | video (low : 0x8000 ≤ address.toNat) (upper : address.toNat < 0xA000) : Located address video
  | save (low : 0xA000 ≤ address.toNat) (upper : address.toNat < 0xC000) : Located address save
  | work (low : 0xC000 ≤ address.toNat) (upper : address.toNat < 0xFE00) : Located address work
  | objects (low : 0xFE00 ≤ address.toNat) (upper : address.toNat < 0xFEA0) : Located address objects
  | gap (low : 0xFEA0 ≤ address.toNat) (upper : address.toNat < 0xFF00) : Located address gap
  | joypad (only : address.toNat = 0xFF00) : Located address joypad
  | serial (low : 0xFF01 ≤ address.toNat) (upper : address.toNat ≤ 0xFF02) : Located address serial
  | timer (low : 0xFF04 ≤ address.toNat) (upper : address.toNat ≤ 0xFF07) : Located address timer
  | requests (only : address.toNat = 0xFF0F) : Located address requests
  | copy (only : address.toNat = 0xFF46) : Located address copy
  | lcd (low : 0xFF40 ≤ address.toNat) (upper : address.toNat ≤ 0xFF4B)
    (other : address.toNat ≠ 0xFF46) : Located address lcd
  | boot (only : address.toNat = 0xFF50) : Located address boot
  /-- A register address that no device has. -/
  | spare (left : address.toNat = 0xFF03 ∨
      (0xFF08 ≤ address.toNat ∧ address.toNat ≤ 0xFF0E) ∨
      (0xFF10 ≤ address.toNat ∧ address.toNat ≤ 0xFF3F) ∨
      (0xFF4C ≤ address.toNat ∧ address.toNat ≤ 0xFF4F) ∨
      (0xFF51 ≤ address.toNat ∧ address.toNat ≤ 0xFF7F)) : Located address spare
  | high (low : 0xFF80 ≤ address.toNat) (upper : address.toNat < 0xFFFF) : Located address high
  | enables (only : address.toNat = 0xFFFF) : Located address enables

/-- **Every address lies in its region.** -/
theorem located_of (address : UInt16) : Located address (Region.of address) := by
  have small := address.toNat_lt
  unfold Region.of ofRegister
  -- Test after test, whatever the addresses are; `split` would compute with them and give up.
  repeat' refine iteInduction (motive := Located address) (fun _ => ?_) (fun _ => ?_)
  all_goals
    simp only [UInt16.lt_iff_toNat_lt, UInt16.le_iff_toNat_le, ← UInt16.toNat_inj,
      UInt16.reduceToNat] at *
    constructor <;> omega

/-- **The regions do not meet.** -/
theorem Located.of_eq {address : UInt16} {region : Region} (h : Located address region) :
    Region.of address = region := by
  have found := located_of address
  revert found
  cases h <;> cases Region.of address <;> intro found <;> first | rfl | (cases found; omega)

/-! ## Single registers -/

/-- The address of a region that is a single register. -/
def register? : Region → Option UInt16
  | joypad => some 0xFF00
  | requests => some 0xFF0F
  | copy => some 0xFF46
  | _ => none

/-- An address fits a region: where that is a single register, it is the one. -/
def Fits (address : UInt16) (region : Region) : Prop :=
  ∀ register, region.register? = some register → address = register

variable {address : UInt16}

theorem Located.fits {region : Region} (h : Located address region) : Fits address region := by
  intro register single
  cases h with
  | joypad only | requests only | copy only =>
    cases single
    exact UInt16.toNat_inj.mp only
  | _ => cases single

theorem eq_of_register {register : UInt16}
    (single : (Region.of address).register? = some register) : address = register :=
  (located_of address).fits register single

theorem eq_of_copy (h : Region.of address = .copy) : address = 0xFF46 :=
  eq_of_register (h ▸ rfl)

end Region
end DotMatrix
