import DotMatrix.Lcd.Screen

/-! # Picture files

A picture of the screen as a PNG file: a signature and three chunks, each with its length, its name
and a checksum. The dots are stored without compression, in blocks as long as their length field
allows.
-/
namespace DotMatrix.Picture

/-! ## Numbers and checksums -/

/-- Four bytes, the highest first. -/
def bigEndian (value : UInt32) : ByteArray :=
  ⟨#[UInt8.ofNat (value.toNat / Nat.pow 2 24), UInt8.ofNat (value.toNat / Nat.pow 2 16),
    UInt8.ofNat (value.toNat / Nat.pow 2 8), UInt8.ofNat value.toNat]⟩

/-- Two bytes, the lowest first. -/
def littleEndian (value : Nat) : ByteArray := ⟨#[UInt8.ofNat value, UInt8.ofNat (value / 256)]⟩

/-- One bit of the cyclic checksum. -/
def cyclicBit (sum : UInt32) : UInt32 :=
  if sum &&& 1 = 1 then (sum >>> 1) ^^^ 0xEDB88320 else sum >>> 1

/-- One byte of the cyclic checksum. -/
def cyclicByte (sum : UInt32) (byte : UInt8) : UInt32 :=
  Nat.repeat cyclicBit 8 (sum ^^^ byte.toUInt32)

/-- The cyclic checksum of some bytes. -/
def cyclicSum (bytes : ByteArray) : UInt32 := bytes.foldl cyclicByte 0xFFFFFFFF ^^^ 0xFFFFFFFF

/-- The two sums of the dots, each modulo the same prime, put together. -/
def doubleSum (bytes : ByteArray) : UInt32 :=
  let (low, high) := bytes.foldl
    (fun (low, high) byte =>
      let low := (low + byte.toNat) % 65521
      (low, (high + low) % 65521))
    ((1, 0) : Nat × Nat)
  UInt32.ofNat (high * 65536 + low)

/-! ## Chunks -/

/-- A chunk with its length, its name and its checksum. -/
def chunk (name : String) (content : ByteArray) : ByteArray :=
  let body := name.toUTF8 ++ content
  bigEndian (UInt32.ofNat content.size) ++ body ++ bigEndian (cyclicSum body)

/-- The size of the picture, and eight bits for each of red, green, blue and opacity. -/
def description : ByteArray :=
  bigEndian (UInt32.ofNat Screen.width) ++ bigEndian (UInt32.ofNat Screen.height) ++
    ⟨#[8, 6, 0, 0, 0]⟩

/-- The rows of a picture, each after a byte that says that it is stored as it is. -/
def rows (rgba : ByteArray) : ByteArray :=
  let width := Screen.width * 4
  (List.range Screen.height).foldl
    (fun out row => out.push 0 ++ rgba.extract (row * width) (row * width + width)) .empty

/-- The greatest length of a stored block. -/
def blockLength : Nat := 65535

/-- Bytes in stored blocks, of which there are `count` more after the first. -/
def storedBlocks (bytes : ByteArray) : (count : Nat) → ByteArray
  | 0 => block true bytes
  | count + 1 =>
    block false (bytes.extract 0 blockLength) ++
      storedBlocks (bytes.extract blockLength bytes.size) count
where
  /-- One stored block. -/
  block (last : Bool) (bytes : ByteArray) : ByteArray :=
    (⟨#[if last then 1 else 0]⟩ : ByteArray) ++ littleEndian bytes.size ++
      littleEndian (blockLength - bytes.size) ++ bytes

/-- Bytes in the container that the dots are kept in. -/
def contained (bytes : ByteArray) : ByteArray :=
  (⟨#[0x78, 0x01]⟩ : ByteArray) ++ storedBlocks bytes ((bytes.size - 1) / blockLength) ++
    bigEndian (doubleSum bytes)

/-- The bytes every file of this kind starts with. -/
def signature : ByteArray := ⟨#[0x89, 0x50, 0x4E, 0x47, 0x0D, 0x0A, 0x1A, 0x0A]⟩

/-- The file that shows a screen. -/
def encode (screen : Screen) : ByteArray :=
  signature ++ chunk "IHDR" description ++ chunk "IDAT" (contained (rows screen.rgba)) ++
    chunk "IEND" .empty

end DotMatrix.Picture
