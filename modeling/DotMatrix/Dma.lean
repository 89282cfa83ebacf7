/-! # Copying to object memory

One store starts a copy of 160 bytes, one a M-cycle, from a page of the address space to object
memory. The first byte moves in the third M-cycle after the store. The engine only says which byte
is due; moving it is up to the memory map.
-/
namespace DotMatrix

/-- The copying engine. -/
structure Dma where
  /-- The address of the first byte. -/
  source : Nat := 0
  /-- M-cycles until the copy begins. -/
  delay : Nat := 0
  /-- The number of the next byte. -/
  index : Nat := 0
  /-- Whether a copy is under way, and object memory closed; an earlier copy keeps it closed until
  the new one is complete. -/
  active : Bool := false
  deriving DecidableEq, Inhabited

namespace Dma

/-- The bytes of a copy. -/
def length : Nat := 160

/-- M-cycles that pass before a copy begins, the one of the store included. -/
def startDelay : Nat := 2

/-- The page that is copied from: pages above work memory show work memory again. -/
def sourcePage (page : UInt8) : Nat := if page < 0xE0 then page.toNat else page.toNat - 0x20

/-- Begin a copy, or begin again. -/
def start (dma : Dma) (page : UInt8) : Dma :=
  { dma with source := sourcePage page * 0x100, delay := startDelay, index := 0 }

/-- Whether a copy is under way or about to begin. -/
def busy (dma : Dma) : Bool := dma.active || 0 < dma.delay

/-- One M-cycle, and the number of the byte that moves in it. -/
def tick (dma : Dma) : Dma × Option Nat :=
  if 0 < dma.delay then
    ({ dma with delay := dma.delay - 1, active := dma.active || dma.delay == 1 }, none)
  else if dma.active then
    ({ dma with index := dma.index + 1, active := dma.index + 1 != length }, some dma.index)
  else (dma, none)

end Dma
end DotMatrix
