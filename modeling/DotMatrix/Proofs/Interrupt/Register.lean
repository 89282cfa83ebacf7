import DotMatrix.Interrupt

/-! # The request register

What the operations on the request register do to the bit of each source.
-/
namespace DotMatrix

theorem Interrupt.testBit_bit (source other : Interrupt) :
    source.bit.toNat.testBit other.index = decide (other = source) := by
  cases source <;> cases other <;> rfl

namespace Interrupts
variable {ints : Interrupts} {source : Interrupt}

/-- A source has asked for an interrupt: its bit of the request register is set. -/
def Asked (ints : Interrupts) (source : Interrupt) : Prop :=
  ints.requested.toNat.testBit source.index = true

instance : Decidable (ints.Asked source) := inferInstanceAs (Decidable (_ = true))

theorem asked_request (other : Interrupt) :
    (ints.request other).Asked source ↔ ints.Asked source ∨ source = other := by
  simp [Asked, request, Nat.testBit_or, Interrupt.testBit_bit]

theorem asked_requestAll (sources : List Interrupt) :
    (ints.requestAll sources).Asked source ↔ ints.Asked source ∨ source ∈ sources := by
  induction sources generalizing ints with
  | nil => simp [requestAll]
  | cons first more ih =>
    show ((ints.request first).requestAll more).Asked source ↔ _
    rw [ih, asked_request, or_assoc, List.mem_cons]

theorem asked_clear (served : Interrupt) :
    (ints.clear served).Asked source ↔ ints.Asked source ∧ source ≠ served := by
  have others : (~~~served.bit).toNat.testBit source.index = decide (source ≠ served) := by
    cases served <;> cases source <;> rfl
  unfold Asked clear
  rw [UInt8.toNat_and, Nat.testBit_and, others, Bool.and_eq_true, decide_eq_true_iff]

/-- A store to the register sets the bits of the value, and clears all others. -/
theorem asked_setRequests (value : UInt8) :
    (ints.setRequests value).Asked source ↔ value.toNat.testBit source.index = true := by
  have kept : (0x1F : UInt8).toNat.testBit source.index = true := by
    cases source <;> rfl
  unfold Asked setRequests
  rw [UInt8.toNat_and, Nat.testBit_and, kept, Bool.and_true]

/-- No bit above those of the five sources is ever set. -/
def Bounded (ints : Interrupts) : Prop := ints.requested.toNat < 32

theorem Bounded.requestAll (h : ints.Bounded) (sources : List Interrupt) :
    (ints.requestAll sources).Bounded := by
  induction sources generalizing ints with
  | nil => exact h
  | cons first more ih =>
    have small : first.bit.toNat < Nat.pow 2 5 := by cases first <;> decide
    have set : (ints.request first).Bounded := by
      show (ints.requested ||| first.bit).toNat < 32
      rw [UInt8.toNat_or]
      exact Nat.or_lt_two_pow h small
    exact ih set

theorem Bounded.clear (h : ints.Bounded) (served : Interrupt) : (ints.clear served).Bounded := by
  show (ints.requested &&& ~~~served.bit).toNat < 32
  rw [UInt8.toNat_and]
  exact Nat.lt_of_le_of_lt Nat.and_le_left h

theorem bounded_setRequests (value : UInt8) : (ints.setRequests value).Bounded := by
  show (value &&& 0x1F).toNat < 32
  rw [UInt8.toNat_and]
  exact Nat.lt_succ_of_le Nat.and_le_right

end Interrupts

end DotMatrix
