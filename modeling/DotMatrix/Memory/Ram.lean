/-! # Work memory

A block of bytes of fixed size in which every address is valid: an address counts modulo the size,
so a block shows again and again through a larger window.
-/
namespace DotMatrix

/-- `size` bytes, addressed modulo `size`. -/
structure Ram (size : Nat) where
  cells : Vector UInt8 size

namespace Ram
-- The zero is named: there are others once algebra is imported.
variable {size : Nat} [@NeZero Nat Zero.ofOfNat0 size]

instance neZero_8192 : @NeZero Nat Zero.ofOfNat0 8192 := ⟨by decide⟩

instance neZero_128 : @NeZero Nat Zero.ofOfNat0 128 := ⟨by decide⟩

/-- All bytes zero. -/
def zeroed : Ram size := ⟨Vector.replicate size 0⟩

instance : Inhabited (Ram size) := ⟨zeroed⟩

/-- The cell that an address selects. -/
@[inline]
def cell (size : Nat) [@NeZero Nat Zero.ofOfNat0 size] (address : Nat) : Fin size :=
  ⟨address % size, Nat.mod_lt _ (Nat.pos_of_neZero size)⟩

/-- The byte at an address. -/
@[inline]
def read (ram : Ram size) (address : Nat) : UInt8 := ram.cells[cell size address]

/-- Store a byte. -/
@[inline]
def write (ram : Ram size) (address : Nat) (value : UInt8) : Ram size :=
  ⟨ram.cells.set (cell size address) value (cell size address).isLt⟩

/-- Store bytes one after the other from an address on. -/
def load (ram : Ram size) (address : Nat) : List UInt8 → Ram size
  | [] => ram
  | byte :: bytes => (ram.write address byte).load (address + 1) bytes

@[simp]
theorem read_zeroed (address : Nat) : (zeroed : Ram size).read address = 0 := by
  simp [read, zeroed]

/-- Addresses that select the same cell read the same. -/
theorem read_congr (ram : Ram size) {first second : Nat} (h : first % size = second % size) :
    ram.read first = ram.read second := by
  simp only [read, cell, h]

/-- **Reading after a store** sees the stored byte at every address that selects the same cell, and
the earlier content elsewhere. -/
theorem read_write (ram : Ram size) (stored address : Nat) (value : UInt8) :
    (ram.write stored value).read address =
      if stored % size = address % size then value else ram.read address := by
  simp [read, write, cell, Vector.getElem_set]

/-- One line about a block: its size, and none of its content. -/
def summary (_ : Ram size) : String := "Memory \x7b size: " ++ toString size ++ " \x7d"

end Ram
end DotMatrix
