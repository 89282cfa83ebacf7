import DotMatrix.Cartridge.Kind
import DotMatrix.Cartridge.Licensee
import DotMatrix.Fault
import DotMatrix.Journal
import DotMatrix.Text.Blank
import DotMatrix.Text.Utf8
import DotMatrix.Word

/-! # The header of an image

Every image holds, at fixed places before 0x0150, a title, the kind of the cartridge, the sizes of
its memories, its publisher and a checksum. `Header.read` takes these out. An image is refused for
the first of five reasons that applies: it is too short, its kind is not known, the size of the
program or of the memory is not known, or the publisher is not. A wrong checksum and an image
shorter than it says are only remarked upon.
-/
namespace DotMatrix

/-- Where a cartridge was meant to be sold. -/
inductive Destination where
  | japan
  | overseas
  deriving DecidableEq, Inhabited

/-- What an image says about itself. -/
structure Header where
  title : String
  /-- The byte that says whether the colour hardware is known to the program. -/
  colourFlag : UInt8
  /-- Whether the functions of the television adapter are used. -/
  adapter : Bool
  kind : Kind
  /-- The size of the program in bytes, as declared. -/
  romSize : Nat
  /-- The size of the memory in bytes, as declared. -/
  ramSize : Nat
  destination : Destination
  licensee : String
  /-- The checksum that the image gives. -/
  storedChecksum : UInt8
  /-- The checksum that the image has. -/
  checksum : UInt8
  deriving DecidableEq

namespace Header

/-- Where the header ends; an image must be at least this long. -/
def limit : Nat := 0x150

/-- The byte at an offset of an image, and zero beyond its end. -/
def byteAt (image : ByteArray) (offset : Nat) : UInt8 :=
  if h : offset < image.size then image.get offset h else 0

/-- `count` bytes of an image from an offset on. -/
def bytesFrom (image : ByteArray) (offset count : Nat) : List UInt8 :=
  (List.range' offset count).map (byteAt image)

/-! ## Fields -/

/-- Whether a flag byte announces support for the colour hardware. -/
def supportsColour (flag : UInt8) : Bool := hasBit flag 7

/-- The title in its field: the text before the first zero byte, without white space around it. -/
def titleText (field : List UInt8) : String :=
  String.ofList (Text.trim (Text.Utf8.decode (field.takeWhile (· != 0))))

/-- The bytes of the title. There are sixteen, but the last of them is the flag of the colour
hardware if that is set. -/
def titleField (image : ByteArray) : List UInt8 :=
  bytesFrom image 0x134 (if supportsColour (byteAt image 0x143) then 15 else 16)

/-- The size of the program: 32 KiB, doubled `code` times. -/
def romSize? (code : UInt8) : Option Nat :=
  if code ≤ 8 then some (0x8000 * Nat.pow 2 code.toNat) else none

/-- The size of the memory by its code. -/
def ramSize? (code : UInt8) : Option Nat :=
  [0, 0x800, 0x2000, 0x8000, 0x20000, 0x10000][code.toNat]?

/-- The size of the memory that the second controller has built in, in half bytes. -/
def builtInRam : Nat := 0x200

/-- Each byte from the title up to the checksum is taken away, and one more for each. -/
def checksumOf (image : ByteArray) : UInt8 :=
  (bytesFrom image 0x134 25).foldl (fun sum byte => sum - byte - 1) 0

/-- The publisher named by the older code or, if that says so, by the newer one. -/
def readLicensee (image : ByteArray) : Except Fault String :=
  let old := byteAt image 0x14B
  if old = Licensee.seePair then
    let first := byteAt image 0x144
    let second := byteAt image 0x145
    match Licensee.ofPair? first second with
    | some name => .ok name
    | none => .error (.unknownNewLicensee first second)
  else
    match Licensee.ofByte? old with
    | some name => .ok name
    | none => .error (.unknownLicensee old)

/-- The memory beside the program: built in with the second controller, else by its code. -/
def readRamSize (kind : Kind) (image : ByteArray) : Except Fault Nat :=
  if kind.controller = .mbc2 then .ok builtInRam
  else
    match ramSize? (byteAt image 0x149) with
    | some size => .ok size
    | none => .error (.unknownRamSize (byteAt image 0x149))

/-! ## The whole header -/

/-- The header of an image, or the first reason to refuse it. -/
def read (image : ByteArray) : Except Fault Header := do
  if image.size < limit then throw (.imageTooSmall image.size)
  let some kind := Kind.ofCode? (byteAt image 0x147)
    | throw (.unsupportedCartridge (byteAt image 0x147))
  let some romSize := romSize? (byteAt image 0x148)
    | throw (.unknownRomSize (byteAt image 0x148))
  let ramSize ← readRamSize kind image
  let licensee ← readLicensee image
  return {
    title := titleText (titleField image)
    colourFlag := byteAt image 0x143
    adapter := byteAt image 0x146 == 3
    kind := kind
    romSize := romSize
    ramSize := ramSize
    destination := if byteAt image 0x14A = 0 then .japan else .overseas
    licensee := licensee
    storedChecksum := byteAt image 0x14D
    checksum := checksumOf image }

/-- Whether the image gives the checksum that it has. -/
def checksumHolds (header : Header) : Bool := header.checksum == header.storedChecksum

/-- Whether the program knows the colour hardware. -/
def knowsColour (header : Header) : Bool := supportsColour header.colourFlag

/-- The number of program banks of 16 KiB. -/
def romBanks (header : Header) : Nat := header.romSize / 0x4000

/-- The number of memory banks of 8 KiB, a part of one counted as a whole. -/
def ramBanks (header : Header) : Nat := (header.ramSize + 0x1FFF) / 0x2000

/-- The size of the memory that is really there. -/
def fittedRam (header : Header) : Nat := if header.kind.ram then header.ramSize else 0

/-- What is odd about an image of `size` bytes that was accepted. -/
def remarks (header : Header) (size : Nat) : List Notice :=
  (if header.checksumHolds then []
    else [⟨.warn, "header checksum mismatch: stored " ++ Text.hexByte header.storedChecksum ++
      ", computed " ++ Text.hexByte header.checksum⟩]) ++
  (if header.romSize ≤ size then []
    else [⟨.warn, "ROM image is " ++ toString size ++ " bytes but the header declares " ++
      toString header.romSize⟩])

end Header
end DotMatrix
