/-! # Byte images

An image of any length, such as a cartridge's program or its battery-backed memory. Offsets count
modulo the length. An image without bytes reads as an open bus and ignores stores.
-/
namespace DotMatrix

/-- Bytes addressed by offset modulo their number. -/
structure Banked where
  bytes : ByteArray := .empty

namespace Banked

/-- An image of `size` zero bytes. -/
def zeroed (size : Nat) : Banked := ⟨⟨Array.replicate size 0⟩⟩

instance : Inhabited Banked := ⟨{}⟩

/-- The number of bytes. -/
def size (image : Banked) : Nat := image.bytes.size

/-- The byte at an offset; an empty image reads 0xFF. -/
def read (image : Banked) (offset : Nat) : UInt8 :=
  if h : 0 < image.bytes.size then
    image.bytes.get (offset % image.bytes.size) (Nat.mod_lt _ h)
  else 0xFF

/-- Store a byte; an empty image stays as it is. -/
def write (image : Banked) (offset : Nat) (value : UInt8) : Banked :=
  if h : 0 < image.bytes.size then
    ⟨image.bytes.set (offset % image.bytes.size) value (Nat.mod_lt _ h)⟩
  else image

/-- Copy `data` over the start of the image and ignore what does not fit. -/
def load (image : Banked) (data : ByteArray) : Banked :=
  let count := min data.size image.bytes.size
  ⟨data.copySlice 0 image.bytes 0 count⟩

/-- One line about an image: its length, and none of its content. -/
def summary (image : Banked) : String :=
  "BankedMemory \x7b len: " ++ toString image.size ++ " \x7d"

end Banked
end DotMatrix
