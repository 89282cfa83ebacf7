import DotMatrix.Cartridge.Basic
import DotMatrix.Proofs.Memory.Banked
import DotMatrix.Proofs.Narrow.Width

/-! # The header of an image in registers

An image can be of any length.  It is refused if it is too short before the first byte is looked for, and so
every image is read or refused.
-/
namespace DotMatrix.Narrow

/-- The byte at an offset of an image. -/
def byteAt (image : ByteArray) (offset : Nat) : Option UInt8 := image.data[offset]?

/-- The bytes of an image from one offset up to another. -/
def bytesUpTo (image : ByteArray) (first last : Nat) : Option (List UInt8) := do
  let count ← minus last first
  let _ ← upTo image.size last
  return Header.bytesFrom image first count

/-- The bytes of the title. -/
def titleField (image : ByteArray) : Option (List UInt8) := do
  let flag ← byteAt image 0x143
  bytesUpTo image 0x134 (if Header.supportsColour flag then 0x143 else 0x144)

/-- The size of the program. -/
def romSize? (code : UInt8) : Option (Option Nat) :=
  if code ≤ 8 then do
    let size ← fit .quad (0x8000 * Nat.pow 2 code.toNat)
    return some size
  else some none

/-- The publisher. -/
def readLicensee (image : ByteArray) : Option (Except Fault String) := do
  let old ← byteAt image 0x14B
  let first ← byteAt image 0x144
  let second ← byteAt image 0x145
  return if old = Licensee.seePair then
    match Licensee.ofPair? first second with
    | some name => .ok name
    | none => .error (.unknownNewLicensee first second)
  else
    match Licensee.ofByte? old with
    | some name => .ok name
    | none => .error (.unknownLicensee old)

/-- The memory beside the program. -/
def readRamSize (kind : Kind) (image : ByteArray) : Option (Except Fault Nat) :=
  if kind.controller = .mbc2 then some (.ok Header.builtInRam)
  else do
    let code ← byteAt image 0x149
    return match Header.ramSize? code with
      | some size => .ok size
      | none => .error (.unknownRamSize code)

/-- The checksum. -/
def checksumOf (image : ByteArray) : Option UInt8 := do
  let bytes ← bytesUpTo image 0x134 0x14D
  return bytes.foldl (fun sum byte => sum - byte - 1) 0

/-- The header of an image, or the first reason to refuse it. -/
def readHeader (image : ByteArray) : Option (Except Fault Header) :=
  if image.size < Header.limit then some (.error (.imageTooSmall image.size))
  else do
    let flag ← byteAt image 0x143
    let title ← titleField image
    let code ← byteAt image 0x147
    match Kind.ofCode? code with
    | none => return .error (.unsupportedCartridge code)
    | some kind =>
      let code ← byteAt image 0x148
      match ← romSize? code with
      | none => return .error (.unknownRomSize code)
      | some romSize =>
        match ← readRamSize kind image with
        | .error fault => return .error fault
        | .ok ramSize =>
          match ← readLicensee image with
          | .error fault => return .error fault
          | .ok licensee =>
            let adapter ← byteAt image 0x146
            let destination ← byteAt image 0x14A
            let stored ← byteAt image 0x14D
            let checksum ← checksumOf image
            return .ok {
              title := Header.titleText title
              colourFlag := flag
              adapter := adapter == 3
              kind := kind
              romSize := romSize
              ramSize := ramSize
              destination := if destination = 0 then .japan else .overseas
              licensee := licensee
              storedChecksum := stored
              checksum := checksum }

/-- Put an image onto the board that its header asks for, or refuse it. -/
def ofImage (image : ByteArray) (now : UInt64) : Option (Except Fault Cartridge) := do
  let header ← readHeader image
  return header.map fun header =>
    { header := header
      rom := ⟨image⟩
      ram := .zeroed header.fittedRam
      mapper := .ofKind header.kind now
      now := now }

section
variable {image : ByteArray} (long : Header.limit ≤ image.size)
include long

theorem byteAt_eq {offset : Nat} (inside : offset < Header.limit) :
    byteAt image offset = some (Header.byteAt image offset) := by
  have there : offset < image.size := Nat.lt_of_lt_of_le inside long
  rw [byteAt, Header.byteAt, getElem?_data, getElem?_pos image offset there, dif_pos there]
  rfl

theorem bytesUpTo_eq {first last : Nat} (ordered : first ≤ last) (inside : last ≤ Header.limit) :
    bytesUpTo image first last = some (Header.bytesFrom image first (last - first)) :=
  bind_of_eq (minus_of_le ordered) (bind_of_eq (upTo_of_le (Nat.le_trans inside long)) rfl)

theorem titleField_eq : titleField image = some (Header.titleField image) := by
  refine bind_of_eq (byteAt_eq long (by decide)) ?_
  unfold Header.titleField
  split
  · exact bytesUpTo_eq long (by decide) (by decide)
  · exact bytesUpTo_eq long (by decide) (by decide)

theorem readLicensee_eq : readLicensee image = some (Header.readLicensee image) := by
  refine bind_of_eq (byteAt_eq long (by decide)) ?_
  refine bind_of_eq (byteAt_eq long (by decide)) ?_
  exact bind_of_eq (byteAt_eq long (by decide)) rfl

theorem readRamSize_eq (kind : Kind) : readRamSize kind image = some (Header.readRamSize kind image) := by
  unfold readRamSize Header.readRamSize
  split
  · rfl
  · exact bind_of_eq (byteAt_eq long (by decide)) rfl

theorem checksumOf_eq : checksumOf image = some (Header.checksumOf image) :=
  bind_of_eq (bytesUpTo_eq long (by decide) (by decide)) rfl

end

theorem romSize?_eq (code : UInt8) : romSize? code = some (Header.romSize? code) := by
  unfold romSize? Header.romSize?
  split
  · rename_i low
    have few : code.toNat ≤ 8 := UInt8.le_iff_toNat_le.mp low
    have size : 0x8000 * Nat.pow 2 code.toNat ≤ 0x8000 * Nat.pow 2 8 :=
      Nat.mul_le_mul_left _ (Nat.pow_le_pow_right (by decide) few)
    exact bind_of_eq (fit_quad (Nat.lt_of_le_of_lt size (by decide))) rfl
  · rfl

/-- **Every image is read or refused.** -/
theorem readHeader_eq (image : ByteArray) : readHeader image = some (Header.read image) := by
  unfold readHeader Header.read
  split
  · rfl
  · rename_i enough
    have long : Header.limit ≤ image.size := Nat.le_of_not_lt enough
    refine bind_of_eq (byteAt_eq long (by decide)) ?_
    refine bind_of_eq (titleField_eq long) ?_
    refine bind_of_eq (byteAt_eq long (by decide)) ?_
    cases Kind.ofCode? (Header.byteAt image 0x147) with
    | none => rfl
    | some kind =>
      refine bind_of_eq (byteAt_eq long (by decide)) ?_
      refine bind_of_eq (romSize?_eq _) ?_
      cases Header.romSize? (Header.byteAt image 0x148) with
      | none => rfl
      | some romSize =>
        refine bind_of_eq (readRamSize_eq long kind) ?_
        dsimp only
        cases Header.readRamSize kind image with
        | error fault => rfl
        | ok ramSize =>
          refine bind_of_eq (readLicensee_eq long) ?_
          cases Header.readLicensee image with
          | error fault => rfl
          | ok licensee =>
            refine bind_of_eq (byteAt_eq long (by decide)) ?_
            refine bind_of_eq (byteAt_eq long (by decide)) ?_
            refine bind_of_eq (byteAt_eq long (by decide)) ?_
            exact bind_of_eq (checksumOf_eq long) rfl

theorem ofImage_eq (image : ByteArray) (now : UInt64) :
    ofImage image now = some (Cartridge.ofImage image now) := by
  refine bind_of_eq (readHeader_eq image) ?_
  unfold Cartridge.ofImage
  cases Header.read image <;> rfl

end DotMatrix.Narrow
