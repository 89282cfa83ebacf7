import DotMatrix.Proofs.Arithmetic.LongNumbers

/-! # Decimal numbers

A byte can hold two decimal digits, one in each half.  The processor adds and subtracts such bytes as if they
were binary, and the decimal adjustment that follows corrects the result.  All that it has for that is the
result itself and the flags; it cannot see the operands.  Here it is shown that this is enough: the adjustment
finds out which of the two digits has overflowed (`adjusted_add`, `adjusted_sub`), and leaves as carry what the
next two digits need.  So programs can calculate with decimal numbers of any length (`packed_arithmetic`).
-/
namespace DotMatrix
namespace Arithmetic

/-- Bytes as pairs of decimal digits. -/
def packed : Numerals where
  base := 100
  digit byte := byte.toNat / 16 * 10 + byte.toNat % 16
  Proper byte := byte.toNat / 16 ≤ 9 ∧ byte.toNat % 16 ≤ 9
  one_lt_base := by decide
  digit_lt := by omega

/-- Two columns of a decimal addition. -/
def addPacked (column : UInt8 × UInt8) (flags : Flags) : UInt8 × Flags :=
  let sum := add column.1 column.2 flags.carry
  decimalAdjust sum.1 sum.2

/-- Two columns of a decimal subtraction. -/
def subPacked (column : UInt8 × UInt8) (flags : Flags) : UInt8 × Flags :=
  let difference := sub column.1 column.2 flags.carry
  decimalAdjust difference.1 difference.2

/-- Six in every half that is corrected. -/
theorem toNat_correction (low high : Bool) :
    (maskIf low 0x06 ||| maskIf high 0x60).toNat = 6 * low.toNat + 96 * high.toNat := by
  cases low <;> cases high <;> rfl

section
variable {x y : UInt8}

/-- **What the adjustment makes of a sum**: six is added where a digit does not fit, and the carry is that of
the upper digit. -/
theorem adjusted_add (left : packed.Proper x) (right : packed.Proper y) (flags : Flags) :
    let low := decide (10 ≤ x.toNat % 16 + y.toNat % 16 + flags.carry.toNat)
    let high := decide (100 ≤ packed.digit x + packed.digit y + flags.carry.toNat)
    (addPacked (x, y) flags).2.carry = high ∧ (addPacked (x, y) flags).1.toNat + 256 * high.toNat =
      x.toNat + y.toNat + flags.carry.toNat + 6 * low.toNat + 96 * high.toNat := by
  intro low high
  obtain ⟨tens, ones⟩ := left
  obtain ⟨tens', ones'⟩ := right
  have carry := flags.carry.toNat_le
  have worth : high = decide (100 ≤ x.toNat / 16 * 10 + x.toNat % 16 + (y.toNat / 16 * 10 + y.toNat % 16) +
      flags.carry.toNat) := rfl
  -- A digit of ten or more shows in the sum, or has left a carry if it is sixteen or more.
  have lowly : (decide (16 ≤ x.toNat % 16 + y.toNat % 16 + flags.carry.toNat) ||
      decide (9 < (x.toNat + y.toNat + flags.carry.toNat) % 256 % 16)) = low := by
    rw [← Bool.decide_or, decide_eq_decide]
    omega
  have highly : (decide (256 ≤ x.toNat + y.toNat + flags.carry.toNat) ||
      decide (0x99 < (x.toNat + y.toNat + flags.carry.toNat) % 256)) = high := by
    rw [worth, ← Bool.decide_or, decide_eq_decide]
    omega
  simp only [addPacked, decimalAdjust, add, UInt8.toNat_ofNat', Bool.not_false, Bool.true_and, lowly, highly,
    Bool.false_eq_true, if_false, UInt8.toNat_add, toNat_correction, true_and]
  simp only [worth, low, toNat_decide]
  split <;> split <;> omega

/-- **What the adjustment makes of a difference**: six is taken off where a digit has been borrowed for, and
the carry is the borrow of the upper digit. -/
theorem adjusted_sub (left : packed.Proper x) (right : packed.Proper y) (flags : Flags) :
    let low := decide (x.toNat % 16 < y.toNat % 16 + flags.carry.toNat)
    let high := decide (packed.digit x < packed.digit y + flags.carry.toNat)
    (subPacked (x, y) flags).2.carry = high ∧
      (subPacked (x, y) flags).1.toNat + y.toNat + flags.carry.toNat + 6 * low.toNat + 96 * high.toNat =
        x.toNat + 256 * high.toNat := by
  intro low high
  obtain ⟨tens, ones⟩ := left
  obtain ⟨tens', ones'⟩ := right
  have carry := flags.carry.toNat_le
  have worth : high = decide (x.toNat / 16 * 10 + x.toNat % 16 < y.toNat / 16 * 10 + y.toNat % 16 +
      flags.carry.toNat) := rfl
  -- The halves of a byte are in the same order as its digits.
  have highly : decide (x.toNat < y.toNat + flags.carry.toNat) = high := by
    rw [worth, decide_eq_decide]
    omega
  simp only [subPacked, decimalAdjust, sub, UInt8.toNat_ofNat', Bool.not_true, Bool.false_and, Bool.or_false,
    if_true, UInt8.toNat_sub, toNat_correction, highly, true_and]
  simp only [worth, low, toNat_decide]
  split <;> split <;> omega

/-- Pairs of digits add up to a pair of digits and a carry. -/
theorem packed_column_add (left : packed.Proper x) (right : packed.Proper y) (flags : Flags) :
    packed.Proper (addPacked (x, y) flags).1 ∧
      packed.digit (addPacked (x, y) flags).1 + packed.base * (addPacked (x, y) flags).2.carry.toNat =
        packed.digit x + packed.digit y + flags.carry.toNat := by
  obtain ⟨high, adjusted⟩ := adjusted_add left right flags
  rw [high]
  have carry := flags.carry.toNat_le
  have result := (addPacked (x, y) flags).1.toNat_lt
  simp only [packed] at left right adjusted ⊢
  by_cases ones : 10 ≤ x.toNat % 16 + y.toNat % 16 + flags.carry.toNat <;>
    by_cases both : 100 ≤ x.toNat / 16 * 10 + x.toNat % 16 + (y.toNat / 16 * 10 + y.toNat % 16) +
      flags.carry.toNat <;>
    simp only [ones, both, decide_true, decide_false, Bool.toNat_true, Bool.toNat_false] at adjusted ⊢ <;>
    omega

/-- Pairs of digits differ by a pair of digits and a borrow. -/
theorem packed_column_sub (left : packed.Proper x) (right : packed.Proper y) (flags : Flags) :
    packed.Proper (subPacked (x, y) flags).1 ∧
      packed.digit (subPacked (x, y) flags).1 + packed.digit y + flags.carry.toNat =
        packed.digit x + packed.base * (subPacked (x, y) flags).2.carry.toNat := by
  obtain ⟨high, adjusted⟩ := adjusted_sub left right flags
  rw [high]
  have carry := flags.carry.toNat_le
  have result := (subPacked (x, y) flags).1.toNat_lt
  simp only [packed] at left right adjusted ⊢
  by_cases ones : x.toNat % 16 < y.toNat % 16 + flags.carry.toNat <;>
    by_cases both : x.toNat / 16 * 10 + x.toNat % 16 < y.toNat / 16 * 10 + y.toNat % 16 +
      flags.carry.toNat <;>
    simp only [ones, both, decide_true, decide_false, Bool.toNat_true, Bool.toNat_false] at adjusted ⊢ <;>
    omega

end

theorem packed_adds : packed.Adds addPacked where
  proper left right flags := (packed_column_add left right flags).1
  column left right flags := (packed_column_add left right flags).2

theorem packed_subtracts : packed.Subtracts subPacked where
  proper left right flags := (packed_column_sub left right flags).1
  column left right flags := (packed_column_sub left right flags).2

/-- **Decimal numbers of any length.**  Added byte by byte, each sum adjusted and its carry passed on, they
give the digits of their sum that there is room for, and a carry if there is more; subtracted in the same way,
the digits of their difference, and a carry if it went below zero. -/
theorem packed_arithmetic (xs ys : List UInt8) (same : xs.length = ys.length)
    (left : ∀ x ∈ xs, packed.Proper x) (right : ∀ y ∈ ys, packed.Proper y) (flags : Flags) :
    packed.Totals xs ys flags.carry (chain addPacked (xs.zip ys) flags) ∧
      packed.Differs xs ys flags.carry (chain subPacked (xs.zip ys) flags) :=
  ⟨packed_adds.totals same left right flags, packed_subtracts.differs same left right flags⟩

/-- A sum of two numbers of six digits that needs a seventh, and a difference below zero. -/
theorem packed_arithmetic_of_six_digits :
    let xs : List UInt8 := [0x02, 0x01, 0x19]
    let ys : List UInt8 := [0x99, 0x98, 0x90]
    let sum := chain addPacked (xs.zip ys) { carry := true }
    let difference := chain subPacked (xs.zip ys) { carry := true }
    packed.number xs = 190102 ∧ packed.number ys = 909899 ∧
      packed.number sum.1 = 100002 ∧ sum.2.carry = true ∧
      packed.number difference.1 = 280202 ∧ difference.2.carry = true := by
  intro xs ys sum difference
  have digits : ∀ byte ∈ xs ++ ys, byte.toNat / 16 ≤ 9 ∧ byte.toNat % 16 ≤ 9 := by simp [xs, ys]
  rw [List.forall_mem_append] at digits
  obtain ⟨totals, differs⟩ := packed_arithmetic xs ys rfl digits.1 digits.2 { carry := true }
  have x : packed.number xs = 190102 := by decide
  have y : packed.number ys = 909899 := by decide
  have below : ((190102 : Nat) - (909899 : Nat) - (true.toNat : Nat) : Int) %
      (packed.base ^ xs.length : Nat) = 280202 := by decide
  refine ⟨x, y, ?_, ?_, ?_, ?_⟩
  · rw [totals.number, x, y]
    decide
  · rw [totals.carry, x, y]
    decide
  · have number := differs.number
    rw [x, y] at number
    exact_mod_cast number.trans below
  · rw [differs.carry, x, y]
    decide

end Arithmetic
end DotMatrix
