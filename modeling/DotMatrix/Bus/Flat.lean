import DotMatrix.Bus.Basic
import DotMatrix.Memory.Ram

/-! # A bus of plain memory

64 KiB of memory and nothing else. The two interrupt registers are ordinary cells at their usual
addresses, so a program sees exactly what it stored; M-cycles are counted.
-/
namespace DotMatrix

/-- Plain memory with a count of M-cycles and one line for all buttons. -/
structure Flat where
  memory : Ram 0x10000 := .zeroed
  /-- M-cycles so far. -/
  ticks : Nat := 0
  /-- Whether the bus reports a button as held. -/
  held : Bool := false

namespace Flat

/-- The byte at an address. -/
def peek (bus : Flat) (address : UInt16) : UInt8 := bus.memory.read address.toNat

/-- Store a byte. -/
def poke (bus : Flat) (address : UInt16) (value : UInt8) : Flat :=
  { bus with memory := bus.memory.write address.toNat value }

/-- Store bytes from an address on; addresses wrap at the end of memory. -/
def load (bus : Flat) (address : UInt16) (bytes : List UInt8) : Flat :=
  { bus with memory := bus.memory.load address.toNat bytes }

/-- Count one M-cycle. -/
def tick (bus : Flat) : Flat := { bus with ticks := bus.ticks + 1 }

/-- Enabled and requested sources, from the two cells. -/
def pending (bus : Flat) : UInt8 := bus.peek 0xFFFF &&& bus.peek 0xFF0F &&& 0x1F

/-- Clear the bit of a source in the request cell. -/
def acknowledge (bus : Flat) (source : Interrupt) : Flat :=
  let requested := bus.peek 0xFF0F
  bus.poke 0xFF0F (requested &&& ~~~source.bit)

instance : Bus Flat where
  read bus address := (bus.peek address, bus)
  write := poke
  tick := tick
  pending := pending
  acknowledge := acknowledge
  buttonHeld := held

instance : Bus.Lawful Flat := ⟨fun bus => by
  show bus.peek 0xFFFF &&& bus.peek 0xFF0F &&& 0x1F &&& 0x1F = _
  rw [UInt8.and_assoc, UInt8.and_self]
  rfl⟩

end Flat
end DotMatrix
