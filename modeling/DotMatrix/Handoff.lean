import DotMatrix.Lcd.Screen

/-! # Handing over frames

Three slots between one who draws and one who shows. The drawer owns the back slot, the shower owns
the front slot, and the third is parked between them. Publishing fills the back slot and swaps it
with the parked one; taking swaps the front slot with the parked one, but only if that holds a frame
not taken yet. So neither waits for the other, and what is taken is always the newest frame, whole.
-/
namespace DotMatrix

/-- The three slots and who holds which. -/
structure Handoff where
  slots : Vector ByteArray 3
  /-- The slot of the one who draws. -/
  back : Fin 3
  /-- The slot between the two. -/
  parked : Fin 3
  /-- The slot of the one who shows. -/
  front : Fin 3
  /-- Whether the parked slot holds a frame that has not been taken. -/
  fresh : Bool

namespace Handoff

/-- A slot as it is before anything is published: white. -/
def emptySlot : ByteArray := ⟨Array.replicate Screen.byteCount 0xFF⟩

/-- Nothing published yet. -/
def empty : Handoff := ⟨Vector.replicate 3 emptySlot, 0, 1, 2, false⟩

instance : Inhabited Handoff := ⟨empty⟩

/-- Copy a frame over a slot: what does not fit is dropped, and what a short frame does not reach
stays. -/
def overlay (frame slot : ByteArray) : ByteArray :=
  frame.copySlice 0 slot 0 (min frame.size slot.size)

/-- Make a frame the newest. -/
def publish (handoff : Handoff) (frame : ByteArray) : Handoff :=
  { handoff with
    slots := handoff.slots.set handoff.back (overlay frame handoff.slots[handoff.back])
    back := handoff.parked
    parked := handoff.back
    fresh := true }

/-- The newest frame, unless it was taken before. -/
def take (handoff : Handoff) : Option ByteArray × Handoff :=
  if handoff.fresh then
    (some handoff.slots[handoff.parked],
      { handoff with front := handoff.parked, parked := handoff.front, fresh := false })
  else (none, handoff)

/-- Whether there is a frame to take. -/
def hasNew (handoff : Handoff) : Bool := handoff.fresh

end Handoff
end DotMatrix
