/-! # Bytes and words

A word of the machine is sixteen bits wide and is made of a high and a low byte. Everything here is
put through `Nat`, where joining is `256 * high + low` and taking apart is division and remainder.
-/
namespace DotMatrix

/-! ## Joining and splitting -/

/-- The word with the given high and low byte. -/
def wordOf (high low : UInt8) : UInt16 := UInt16.ofNat (high.toNat * 256 + low.toNat)

/-- The high byte of a word. -/
def highByte (word : UInt16) : UInt8 := UInt8.ofNat (word.toNat / 256)

/-- The low byte of a word. -/
def lowByte (word : UInt16) : UInt8 := UInt8.ofNat word.toNat

theorem toNat_wordOf (high low : UInt8) :
    (wordOf high low).toNat = high.toNat * 256 + low.toNat := by
  have h := high.toNat_lt
  have l := low.toNat_lt
  simp only [wordOf, UInt16.toNat_ofNat']
  omega

theorem toNat_highByte (word : UInt16) : (highByte word).toNat = word.toNat / 256 := by
  have h := word.toNat_lt
  simp only [highByte, UInt8.toNat_ofNat']
  omega

theorem toNat_lowByte (word : UInt16) : (lowByte word).toNat = word.toNat % 256 := by
  simp only [lowByte, UInt8.toNat_ofNat']

@[simp]
theorem highByte_wordOf (high low : UInt8) : highByte (wordOf high low) = high := by
  apply UInt8.toNat_inj.mp
  have l := low.toNat_lt
  rw [toNat_highByte, toNat_wordOf]
  omega

@[simp]
theorem lowByte_wordOf (high low : UInt8) : lowByte (wordOf high low) = low := by
  apply UInt8.toNat_inj.mp
  have l := low.toNat_lt
  rw [toNat_lowByte, toNat_wordOf]
  omega

@[simp]
theorem wordOf_highByte_lowByte (word : UInt16) : wordOf (highByte word) (lowByte word) = word := by
  apply UInt16.toNat_inj.mp
  rw [toNat_wordOf, toNat_highByte, toNat_lowByte]
  omega

/-! ## All bytes -/

/-- What holds of the 256 numbers of bytes holds of every byte. -/
theorem forall_byte {p : UInt8 → Prop} (h : ∀ n : Fin 256, p (UInt8.ofNat n)) (byte : UInt8) :
    p byte := by
  have row := h ⟨byte.toNat, byte.toNat_lt⟩
  rwa [UInt8.ofNat_toNat] at row

/-! ## Signed offsets and single bits -/

/-- A byte read as a number from -128 to 127, as a word modulo 2^16. -/
def signExtend (byte : UInt8) : UInt16 :=
  UInt16.ofNat (if byte.toNat < 128 then byte.toNat else byte.toNat + 65280)

/-- Whether bit `index` of `byte` is set. -/
def hasBit (byte : UInt8) (index : Nat) : Bool := byte.toNat / Nat.pow 2 index % 2 == 1

/-- A flag of a byte, by its mask and by its number. -/
theorem flag_eq_testBit (byte : UInt8) (bit : Fin 8) :
    (byte &&& UInt8.ofNat (Nat.pow 2 bit.val) != 0) = byte.toNat.testBit bit := by
  revert byte bit
  exact forall_byte (by decide +kernel)

/-- The byte with only bit `index` set. -/
def bitMask (index : Nat) : UInt8 := UInt8.ofNat (Nat.pow 2 index)

/-- `mask` where `condition` holds, and zero where it does not. -/
def maskIf (condition : Bool) (mask : UInt8) : UInt8 := if condition then mask else 0

end DotMatrix
