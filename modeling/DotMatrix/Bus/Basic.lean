import DotMatrix.Interrupt

/-! # The bus

What the processor sees of the rest of the machine. It reads and writes bytes, tells the machine
that an M-cycle has passed, asks which interrupts wait and takes one, and passes on two events of
its own: the start of a step, at which buttons are sampled, and the instruction that clears the
divider.
-/
namespace DotMatrix

/-- A machine that a processor can drive. -/
class Bus (β : Type) where
  /-- The byte at an address; reading may change the machine. -/
  read : β → UInt16 → UInt8 × β
  write : β → UInt16 → UInt8 → β
  /-- Let the rest of the machine run for one M-cycle, which is four T-cycles. -/
  tick : β → β
  /-- The sources that are enabled and requested, one bit each. -/
  pending : β → UInt8
  /-- Withdraw the request of a source that is being served. -/
  acknowledge : β → Interrupt → β
  /-- Sample the buttons. -/
  poll : β → β := id
  /-- Whether a button was down when last sampled. -/
  buttonHeld : β → Bool := fun _ => false
  /-- Clear the divider of the timer. -/
  resetDivider : β → β := id

/-- A bus that keeps to the five sources: no other bit of its pending mask is ever set. -/
class Bus.Lawful (β : Type) [Bus β] : Prop where
  pending_and : ∀ bus : β, Bus.pending bus &&& 0x1F = Bus.pending bus

/-- One thing the processor did to its bus, in a form that can be written down. -/
inductive Call where
  | poll
  | read (address : UInt16) (value : UInt8)
  | write (address : UInt16) (value : UInt8)
  | tick
  | acknowledge (source : Interrupt)
  | resetDivider
  deriving DecidableEq

end DotMatrix
