import DotMatrix.Memory.Banked
import Mathlib.Logic.Basic

/-! # Byte images

A byte of an image is found at its offset modulo the size (`read_mod`).  A store is seen there and nowhere
else (`read_write`), and loading puts the beginning of what was saved over the beginning of the image
(`read_load`).  Neither changes the size.
-/
namespace DotMatrix

/-! ## Copying over the beginning -/

/-- What is copied over the beginning of bytes leaves their number as it is. -/
theorem size_copySlice (source bytes : ByteArray) :
    (source.copySlice 0 bytes 0 (min source.size bytes.size)).size = bytes.size := by
  show (bytes.data.extract 0 0 ++ _ ++ _).size = bytes.data.size
  simp only [Array.size_append, Array.size_extract, ByteArray.size]
  omega

theorem getElem?_data (bytes : ByteArray) (offset : Nat) : bytes.data[offset]? = bytes[offset]? := by
  by_cases inside : offset < bytes.size
  · rw [getElem?_pos bytes offset inside, getElem?_pos bytes.data offset inside]
    rfl
  · rw [getElem?_neg bytes offset inside, getElem?_neg bytes.data offset inside]

/-- Copying takes the bytes of the source as far as they reach. -/
theorem getElem?_copySlice (source bytes : ByteArray) {offset : Nat} (inside : offset < bytes.size) :
    (source.copySlice 0 bytes 0 (min source.size bytes.size))[offset]? =
      source[offset]?.or bytes[offset]? := by
  rw [← getElem?_data, ← getElem?_data, ← getElem?_data]
  have inside : offset < bytes.data.size := inside
  have copied : (source.copySlice 0 bytes 0 (min source.size bytes.size)).data =
      source.data.extract 0 (min source.data.size bytes.data.size) ++
        bytes.data.extract (min source.data.size bytes.data.size) bytes.data.size := by
    show bytes.data.extract 0 0 ++ source.data.extract 0 (0 + min source.data.size bytes.data.size) ++
      bytes.data.extract (0 + min (min source.data.size bytes.data.size) (source.data.size - 0)) _ = _
    rw [Array.extract_zero, Array.empty_append, Nat.zero_add, Nat.zero_add, Nat.sub_zero,
      Nat.min_eq_left (Nat.min_le_left source.data.size bytes.data.size)]
  rw [copied, Array.getElem?_append, Array.size_extract, Array.getElem?_extract,
    Array.getElem?_extract]
  by_cases reached : offset < source.data.size
  · rw [if_pos (by omega), if_pos (by omega), Nat.zero_add, getElem?_pos source.data offset reached]
    rfl
  · rw [if_neg (by omega), if_pos (by omega), getElem?_neg source.data offset reached,
      Option.none_or]
    congr 1
    omega

namespace Banked
variable (image : Banked)

theorem size_zeroed (size : Nat) : (zeroed size).size = size := Array.size_replicate

theorem read_of_empty {image : Banked} (empty : image.size = 0) (offset : Nat) :
    image.read offset = 0xFF :=
  dif_neg (Nat.not_lt.mpr (Nat.le_of_eq empty))

/-- An image that is not empty is read at the offset modulo its size. -/
theorem getElem?_mod {image : Banked} (filled : 0 < image.size) (offset : Nat) :
    image.bytes[offset % image.size]? = some (image.read offset) := by
  have seen : image.read offset = image.bytes.get (offset % image.size) (Nat.mod_lt _ filled) :=
    dif_pos filled
  rw [seen, getElem?_pos image.bytes _ (Nat.mod_lt offset filled)]
  rfl

/-- An offset into an image meets the byte that is there. -/
theorem getElem?_read {image : Banked} {offset : Nat} (inside : offset < image.size) :
    image.bytes[offset]? = some (image.read offset) := by
  have filled : 0 < image.size := Nat.lt_of_le_of_lt (Nat.zero_le offset) inside
  have found := getElem?_mod filled offset
  rwa [Nat.mod_eq_of_lt inside] at found

/-- Only the offset modulo the size matters. -/
theorem read_mod (offset : Nat) : image.read (offset % image.size) = image.read offset := by
  by_cases filled : 0 < image.size
  · have found := getElem?_mod filled (offset % image.size)
    rw [Nat.mod_mod, getElem?_mod filled offset] at found
    exact (Option.some.inj found).symm
  · have empty : image.size = 0 := Nat.eq_zero_of_not_pos filled
    rw [read_of_empty empty, read_of_empty empty]

theorem read_zeroed {size offset : Nat} (inside : offset < size) : (zeroed size).read offset = 0 := by
  have found := getElem?_read (show offset < (zeroed size).size by rwa [size_zeroed])
  rw [← getElem?_data] at found
  have zero : (zeroed size).bytes.data[offset]? = some 0 := by
    rw [zeroed, Array.getElem?_replicate, if_pos inside]
  exact Option.some.inj (found.symm.trans zero)

theorem write_of_empty {image : Banked} (empty : image.size = 0) (stored : Nat) (value : UInt8) :
    image.write stored value = image :=
  dif_neg (Nat.not_lt.mpr (Nat.le_of_eq empty))

theorem write_mod (stored : Nat) (value : UInt8) :
    image.write (stored % image.size) value = image.write stored value := by
  unfold write
  by_cases filled : 0 < image.bytes.size
  · rw [dif_pos filled, dif_pos filled]
    simp only [size, Nat.mod_mod]
  · rw [dif_neg filled, dif_neg filled]

theorem size_write (stored : Nat) (value : UInt8) : (image.write stored value).size = image.size := by
  unfold write
  by_cases filled : 0 < image.bytes.size
  · rw [dif_pos filled]
    exact Array.size_set ..
  · rw [dif_neg filled]

/-- **Reading after a store** sees what was stored where the offsets agree modulo the size, and what was
there before everywhere else. -/
theorem read_write {image : Banked} (stored : Nat) (value : UInt8) {offset : Nat}
    (inside : offset < image.size) :
    (image.write stored value).read offset =
      if stored % image.size = offset then value else image.read offset := by
  have filled : 0 < image.bytes.size := Nat.lt_of_le_of_lt (Nat.zero_le offset) inside
  have before := getElem?_read inside
  have after := getElem?_read (show offset < (image.write stored value).size by rwa [size_write])
  rw [← getElem?_data] at before after
  rw [write, dif_pos filled] at after ⊢
  have set : (image.bytes.data.set (stored % image.bytes.size) value (Nat.mod_lt _ filled))[offset]? =
    _ := Array.getElem?_set ..
  have read := set.symm.trans after
  rw [before] at read
  show _ = if stored % image.bytes.size = offset then value else _
  split at read
  · rw [if_pos ‹_›]
    exact (Option.some.inj read).symm
  · rw [if_neg ‹_›]
    exact (Option.some.inj read).symm

theorem size_load (saved : ByteArray) : (image.load saved).size = image.size :=
  size_copySlice saved image.bytes

/-- **Reading after loading** sees what was saved as far as that reaches. -/
theorem read_load {image : Banked} (saved : ByteArray) {offset : Nat} (inside : offset < image.size) :
    (image.load saved).read offset = saved[offset]?.getD (image.read offset) := by
  have before := getElem?_read inside
  have after := getElem?_read (show offset < (image.load saved).size by rwa [size_load])
  have copied : (image.load saved).bytes[offset]? = _ := getElem?_copySlice saved image.bytes inside
  rw [copied, before] at after
  cases found : saved[offset]? with
  | none =>
    rw [found] at after
    exact (Option.some.inj after).symm
  | some byte =>
    rw [found] at after
    exact (Option.some.inj after).symm

end Banked
end DotMatrix
