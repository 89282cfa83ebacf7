import DotMatrix.Cpu.Arithmetic
import Mathlib.Data.Nat.Digits.Lemmas
import Mathlib.Tactic.Ring

/-! # Numbers of more than one byte

The processor adds, subtracts and shifts single bytes.  A program that needs longer numbers goes through their
bytes one after the other, and the flags that each operation leaves are there for the next one (`chain`).  This
module says what such chains compute, for numbers of any length.

What bytes stand for is a system of numerals (`Numerals`): a byte is a digit, and the lowest digit comes
first.  The operations enter by what they do to one column of digits (`Adds`, `Subtracts`), and the carry of a
column is worth one in the next; so an induction over the columns serves every system (`Adds.totals`,
`Subtracts.differs`).  Here the system is that of base 256 (`binary`), for which the chains of the byte
operations, of the shifts and of the two word operations are given (`long_arithmetic`).
-/
namespace DotMatrix

theorem toNat_decide (condition : Prop) [Decidable condition] :
    (decide condition).toNat = if condition then 1 else 0 := by
  by_cases holds : condition <;> simp [holds]

namespace Arithmetic
variable {α : Type}

/-! ## Chains -/

/-- Operate on one operand after the other; the flags that each leaves are there for the next. -/
def chain (operate : α → Flags → UInt8 × Flags) : List α → Flags → List UInt8 × Flags
  | [], flags => ([], flags)
  | operand :: rest, flags =>
    let out := operate operand flags
    let more := chain operate rest out.2
    (out.1 :: more.1, more.2)

/-- The same, but from the last operand back to the first. -/
def chainBack (operate : α → Flags → UInt8 × Flags) : List α → Flags → List UInt8 × Flags
  | [], flags => ([], flags)
  | operand :: rest, flags =>
    let more := chainBack operate rest flags
    let out := operate operand more.2
    (out.1 :: more.1, out.2)

/-- A column of an addition, with the carry of the column before. -/
def addColumn (column : UInt8 × UInt8) (flags : Flags) : UInt8 × Flags := add column.1 column.2 flags.carry

/-- A column of a subtraction, with the borrow of the column before. -/
def subColumn (column : UInt8 × UInt8) (flags : Flags) : UInt8 × Flags := sub column.1 column.2 flags.carry

/-! ## Numerals -/

/-- A system of numerals: which bytes are digits, and of what base. -/
structure Numerals where
  base : Nat
  /-- What a byte is worth. -/
  digit : UInt8 → Nat
  Proper : UInt8 → Prop
  one_lt_base : 1 < base
  digit_lt : ∀ {byte}, Proper byte → digit byte < base

/-- Every byte is a digit of base 256. -/
def binary : Numerals where
  base := 256
  digit := UInt8.toNat
  Proper _ := True
  one_lt_base := by decide
  digit_lt {byte} _ := byte.toNat_lt

namespace Numerals
variable (numerals : Numerals)

/-- The number that bytes stand for, the lowest digit first. -/
def number (bytes : List UInt8) : Nat := Nat.ofDigits numerals.base (bytes.map numerals.digit)

@[simp]
theorem number_nil : numerals.number [] = 0 := rfl

@[simp]
theorem number_cons (byte : UInt8) (bytes : List UInt8) :
    numerals.number (byte :: bytes) = numerals.digit byte + numerals.base * numerals.number bytes :=
  Nat.ofDigits_cons

theorem number_concat (bytes : List UInt8) (byte : UInt8) : numerals.number (bytes ++ [byte]) =
    numerals.number bytes + numerals.base ^ bytes.length * numerals.digit byte := by
  simp [number, Nat.ofDigits_append]

theorem number_lt {bytes : List UInt8} (proper : ∀ byte ∈ bytes, numerals.Proper byte) :
    numerals.number bytes < numerals.base ^ bytes.length := by
  have digits : ∀ digit ∈ bytes.map numerals.digit, digit < numerals.base := by
    intro digit member
    obtain ⟨byte, among, rfl⟩ := List.mem_map.mp member
    exact numerals.digit_lt (proper byte among)
  simpa [number] using Nat.ofDigits_lt_base_pow_length numerals.one_lt_base digits

/-! ## Sums and differences -/

/-- The outcome of a chain is the sum of two numbers and a carry: the digits that there is room for, and the
carry if there is more. -/
structure Totals (xs ys : List UInt8) (carry : Bool) (out : List UInt8 × Flags) : Prop where
  length : out.1.length = xs.length
  proper : ∀ byte ∈ out.1, numerals.Proper byte
  number : numerals.number out.1 =
    (numerals.number xs + numerals.number ys + carry.toNat) % numerals.base ^ xs.length
  carry : out.2.carry = true ↔
    numerals.base ^ xs.length ≤ numerals.number xs + numerals.number ys + carry.toNat

/-- The outcome of a chain is the difference of two numbers, less a borrow; the carry says that it went below
zero. -/
structure Differs (xs ys : List UInt8) (borrow : Bool) (out : List UInt8 × Flags) : Prop where
  length : out.1.length = xs.length
  proper : ∀ byte ∈ out.1, numerals.Proper byte
  number : (numerals.number out.1 : Int) =
    ((numerals.number xs : Int) - numerals.number ys - borrow.toNat) % (numerals.base ^ xs.length : Nat)
  carry : out.2.carry = true ↔ numerals.number xs < numerals.number ys + borrow.toNat

/-- What an operation does to a column of a sum. -/
structure Adds (operate : UInt8 × UInt8 → Flags → UInt8 × Flags) : Prop where
  proper : ∀ {x y}, numerals.Proper x → numerals.Proper y → ∀ flags,
    numerals.Proper (operate (x, y) flags).1
  column : ∀ {x y}, numerals.Proper x → numerals.Proper y → ∀ flags,
    numerals.digit (operate (x, y) flags).1 + numerals.base * (operate (x, y) flags).2.carry.toNat =
      numerals.digit x + numerals.digit y + flags.carry.toNat

/-- What an operation does to a column of a difference. -/
structure Subtracts (operate : UInt8 × UInt8 → Flags → UInt8 × Flags) : Prop where
  proper : ∀ {x y}, numerals.Proper x → numerals.Proper y → ∀ flags,
    numerals.Proper (operate (x, y) flags).1
  column : ∀ {x y}, numerals.Proper x → numerals.Proper y → ∀ flags,
    numerals.digit (operate (x, y) flags).1 + numerals.digit y + flags.carry.toNat =
      numerals.digit x + numerals.base * (operate (x, y) flags).2.carry.toNat

section
variable {numerals} {operate : UInt8 × UInt8 → Flags → UInt8 × Flags} {xs ys : List UInt8}

/-- Digits stay digits, one for each column. -/
theorem proper_chain
    (proper : ∀ {x y}, numerals.Proper x → numerals.Proper y → ∀ flags,
      numerals.Proper (operate (x, y) flags).1)
    (same : xs.length = ys.length) (left : ∀ x ∈ xs, numerals.Proper x) (right : ∀ y ∈ ys, numerals.Proper y)
    (flags : Flags) : (chain operate (xs.zip ys) flags).1.length = xs.length ∧
      ∀ byte ∈ (chain operate (xs.zip ys) flags).1, numerals.Proper byte := by
  induction xs generalizing ys flags with
  | nil => exact ⟨rfl, nofun⟩
  | cons x xs ih =>
    obtain ⟨y, ys, rfl⟩ := List.exists_cons_of_length_eq_add_one same.symm
    rw [List.forall_mem_cons] at left right
    obtain ⟨length, others⟩ := ih (by simpa using same) left.2 right.2 (operate (x, y) flags).2
    refine ⟨congrArg (· + 1) length, ?_⟩
    exact List.forall_mem_cons.mpr ⟨proper left.1 right.1 flags, others⟩

theorem Adds.sum (adds : numerals.Adds operate) (same : xs.length = ys.length)
    (left : ∀ x ∈ xs, numerals.Proper x) (right : ∀ y ∈ ys, numerals.Proper y) (flags : Flags) :
    numerals.number (chain operate (xs.zip ys) flags).1 +
        numerals.base ^ xs.length * (chain operate (xs.zip ys) flags).2.carry.toNat =
      numerals.number xs + numerals.number ys + flags.carry.toNat := by
  induction xs generalizing ys flags with
  | nil =>
    obtain rfl := List.length_eq_zero_iff.mp same.symm
    simp [chain]
  | cons x xs ih =>
    obtain ⟨y, ys, rfl⟩ := List.exists_cons_of_length_eq_add_one same.symm
    rw [List.forall_mem_cons] at left right
    have column := adds.column left.1 right.1 flags
    have others := ih (by simpa using same) left.2 right.2 (operate (x, y) flags).2
    simp only [List.zip_cons_cons, chain, number_cons, List.length_cons, Nat.pow_succ]
    -- The carry of this column is what the others begin with.
    generalize operate (x, y) flags = out at column others ⊢
    generalize chain operate (xs.zip ys) out.2 = more at others ⊢
    calc
      _ = numerals.digit out.1 + numerals.base *
          (numerals.number more.1 + numerals.base ^ xs.length * more.2.carry.toNat) := by ring
      _ = numerals.digit out.1 + numerals.base * out.2.carry.toNat +
          numerals.base * (numerals.number xs + numerals.number ys) := by rw [others]; ring
      _ = _ := by rw [column]; ring

theorem Subtracts.difference (subtracts : numerals.Subtracts operate) (same : xs.length = ys.length)
    (left : ∀ x ∈ xs, numerals.Proper x) (right : ∀ y ∈ ys, numerals.Proper y) (flags : Flags) :
    numerals.number (chain operate (xs.zip ys) flags).1 + numerals.number ys + flags.carry.toNat =
      numerals.number xs + numerals.base ^ xs.length * (chain operate (xs.zip ys) flags).2.carry.toNat := by
  induction xs generalizing ys flags with
  | nil =>
    obtain rfl := List.length_eq_zero_iff.mp same.symm
    simp [chain]
  | cons x xs ih =>
    obtain ⟨y, ys, rfl⟩ := List.exists_cons_of_length_eq_add_one same.symm
    rw [List.forall_mem_cons] at left right
    have column := subtracts.column left.1 right.1 flags
    have others := ih (by simpa using same) left.2 right.2 (operate (x, y) flags).2
    simp only [List.zip_cons_cons, chain, number_cons, List.length_cons, Nat.pow_succ]
    generalize operate (x, y) flags = out at column others ⊢
    generalize chain operate (xs.zip ys) out.2 = more at others ⊢
    -- The borrow stands on both sides, and is taken off at the end.
    have both : numerals.digit out.1 + numerals.digit y + flags.carry.toNat +
        numerals.base * (numerals.number more.1 + numerals.number ys + out.2.carry.toNat) =
          numerals.digit x + numerals.base * out.2.carry.toNat + numerals.base *
            (numerals.number xs + numerals.base ^ xs.length * more.2.carry.toNat) := by
      rw [column, others]
    refine Nat.add_right_cancel (m := numerals.base * out.2.carry.toNat) ?_
    calc
      _ = numerals.digit out.1 + numerals.digit y + flags.carry.toNat +
          numerals.base * (numerals.number more.1 + numerals.number ys + out.2.carry.toNat) := by ring
      _ = _ := by rw [both]; ring

/-- **Sums of any length**, from what happens in one column. -/
theorem Adds.totals (adds : numerals.Adds operate) (same : xs.length = ys.length)
    (left : ∀ x ∈ xs, numerals.Proper x) (right : ∀ y ∈ ys, numerals.Proper y) (flags : Flags) :
    numerals.Totals xs ys flags.carry (chain operate (xs.zip ys) flags) := by
  obtain ⟨length, proper⟩ := proper_chain adds.proper same left right flags
  have fits := numerals.number_lt proper
  have sum := adds.sum same left right flags
  rw [length] at fits
  refine ⟨length, proper, ?_, ?_⟩
  · rw [← sum, Nat.add_mul_mod_self_left, Nat.mod_eq_of_lt fits]
  · rw [← sum]
    cases (chain operate (xs.zip ys) flags).2.carry
    · simpa using fits
    · simp

/-- **Differences of any length**, from what happens in one column. -/
theorem Subtracts.differs (subtracts : numerals.Subtracts operate) (same : xs.length = ys.length)
    (left : ∀ x ∈ xs, numerals.Proper x) (right : ∀ y ∈ ys, numerals.Proper y) (flags : Flags) :
    numerals.Differs xs ys flags.carry (chain operate (xs.zip ys) flags) := by
  obtain ⟨length, proper⟩ := proper_chain subtracts.proper same left right flags
  have fits := numerals.number_lt proper
  have small := numerals.number_lt left
  have difference := subtracts.difference same left right flags
  rw [length] at fits
  refine ⟨length, proper, ?_, ?_⟩
  · have signed : (numerals.number xs : Int) - numerals.number ys - flags.carry.toNat =
        numerals.number (chain operate (xs.zip ys) flags).1 - (numerals.base ^ xs.length : Nat) *
          ((chain operate (xs.zip ys) flags).2.carry.toNat : Int) := by
      rw [← Nat.cast_mul]
      omega
    rw [signed, Int.sub_mul_emod_self_left, Int.emod_eq_of_lt (by omega) (by exact_mod_cast fits)]
  · cases carry : (chain operate (xs.zip ys) flags).2.carry
    · rw [carry] at difference
      simp only [Bool.toNat_false, Nat.mul_zero] at difference
      simp only [Bool.false_eq_true, false_iff]
      omega
    · rw [carry] at difference
      simp only [Bool.toNat_true, Nat.mul_one] at difference
      simp only [true_iff]
      omega

end
end Numerals

/-! ## Base 256 -/

theorem binary_adds : binary.Adds addColumn where
  proper _ _ _ := trivial
  column {x y} _ _ flags := by
    have left := x.toNat_lt
    have right := y.toNat_lt
    have carry := flags.carry.toNat_le
    simp only [binary, addColumn, add, UInt8.toNat_ofNat', toNat_decide]
    split <;> omega

theorem binary_subtracts : binary.Subtracts subColumn where
  proper _ _ _ := trivial
  column {x y} _ _ flags := by
    have left := x.toNat_lt
    have right := y.toNat_lt
    have borrow := flags.carry.toNat_le
    simp only [binary, subColumn, sub, UInt8.toNat_ofNat', toNat_decide]
    split <;> omega

/-- As a number of so many bytes, the highest bit being the sign. -/
def signed (bytes : List UInt8) : Int := (binary.number bytes : Int).bmod (256 ^ bytes.length)

theorem hasBit_seven (byte : UInt8) : hasBit byte 7 = decide (128 ≤ byte.toNat) := by
  have small := byte.toNat_lt
  rw [hasBit, Bool.eq_iff_iff, beq_iff_eq, decide_eq_true_iff]
  show byte.toNat / 128 % 2 = 1 ↔ _
  omega

theorem binary_number_lt (bytes : List UInt8) : binary.number bytes < 256 ^ bytes.length :=
  binary.number_lt fun _ _ => trivial

/-- The sign of a number is the highest bit of its highest byte. -/
theorem signed_concat (bytes : List UInt8) (top : UInt8) : signed (bytes ++ [top]) =
    binary.number (bytes ++ [top]) - (256 ^ (bytes ++ [top]).length : Nat) * ((hasBit top 7).toNat : Int) := by
  have low := binary_number_lt bytes
  have small := binary_number_lt (bytes ++ [top])
  have halves : 256 ^ (bytes ++ [top]).length = 2 * (256 ^ bytes.length * 128) := by
    rw [List.length_append, List.length_singleton, Nat.pow_succ]
    omega
  have number : binary.number (bytes ++ [top]) = binary.number bytes + 256 ^ bytes.length * top.toNat :=
    binary.number_concat bytes top
  rw [signed, Int.bmod_def, Int.emod_eq_of_lt (by omega) (by exact_mod_cast small), hasBit_seven]
  by_cases sign : 128 ≤ top.toNat
  · have above : 256 ^ bytes.length * 128 ≤ 256 ^ bytes.length * top.toNat := Nat.mul_le_mul_left _ sign
    rw [if_neg (by omega), decide_eq_true sign, Bool.toNat_true, Nat.cast_one, mul_one]
  · have below : 256 ^ bytes.length * (top.toNat + 1) ≤ 256 ^ bytes.length * 128 :=
      Nat.mul_le_mul_left _ (by omega)
    rw [Nat.mul_succ] at below
    rw [if_pos (by omega), decide_eq_false sign, Bool.toNat_false, Nat.cast_zero, mul_zero, sub_zero]

/-! ## Shifts -/

/-- Rotating a byte to the left doubles it, with a carry at both ends. -/
theorem double_of_rotateLeftCarry (byte : UInt8) (flags : Flags) :
    (rotateLeftCarry byte flags).1.toNat + 256 * (rotateLeftCarry byte flags).2.carry.toNat =
      2 * byte.toNat + flags.carry.toNat := by
  have every : ∀ byte : UInt8, ∀ carry : Bool, (byte <<< 1 ||| maskIf carry 0x01).toNat +
      256 * (hasBit byte 7).toNat = 2 * byte.toNat + carry.toNat := forall_byte (by decide +kernel)
  exact every byte flags.carry

/-- Rotating a byte to the right halves it, with a carry at both ends. -/
theorem double_rotateRightCarry (byte : UInt8) (flags : Flags) :
    2 * (rotateRightCarry byte flags).1.toNat + (rotateRightCarry byte flags).2.carry.toNat =
      byte.toNat + 256 * flags.carry.toNat := by
  have every : ∀ byte : UInt8, ∀ carry : Bool, 2 * (byte >>> 1 ||| maskIf carry 0x80).toNat +
      (hasBit byte 0).toNat = byte.toNat + 256 * carry.toNat := forall_byte (by decide +kernel)
  exact every byte flags.carry

/-- A shift to the left is a rotation into which no carry comes. -/
theorem shiftLeft_eq (byte : UInt8) : shiftLeft byte = rotateLeftCarry byte {} := by
  simp [shiftLeft, rotateLeftCarry, maskIf]

/-- A shift to the right is a rotation into which no carry comes. -/
theorem shiftRight_eq (byte : UInt8) : shiftRight byte = rotateRightCarry byte {} := by
  simp [shiftRight, rotateRightCarry, maskIf]

/-- A shift to the right that keeps the sign is a rotation into which the sign comes. -/
theorem shiftRightSigned_eq (byte : UInt8) :
    shiftRightSigned byte = rotateRightCarry byte { carry := hasBit byte 7 } := by
  have every : ∀ byte : UInt8, byte &&& 0x80 = maskIf (hasBit byte 7) 0x80 := forall_byte (by decide +kernel)
  rw [shiftRightSigned, rotateRightCarry, every]

/-- A chain of rotations to the left doubles a number. -/
theorem double_of_chain (bytes : List UInt8) (flags : Flags) :
    binary.number (chain rotateLeftCarry bytes flags).1 +
        256 ^ bytes.length * (chain rotateLeftCarry bytes flags).2.carry.toNat =
      2 * binary.number bytes + flags.carry.toNat := by
  induction bytes generalizing flags with
  | nil => simp [chain]
  | cons byte bytes ih =>
    have here := double_of_rotateLeftCarry byte flags
    have above := ih (rotateLeftCarry byte flags).2
    simp only [chain, Numerals.number_cons, List.length_cons, Nat.pow_succ]
    generalize rotateLeftCarry byte flags = out at here above ⊢
    generalize chain rotateLeftCarry bytes out.2 = more at above ⊢
    calc
      _ = out.1.toNat + 256 *
          (binary.number more.1 + 256 ^ bytes.length * more.2.carry.toNat) := by simp only [binary]; ring
      _ = out.1.toNat + 256 * out.2.carry.toNat + 256 * (2 * binary.number bytes) := by rw [above]; ring
      _ = _ := by rw [here]; simp only [binary]; ring

/-- A chain of rotations to the right, from the highest byte down, halves a number. -/
theorem double_chainBack (bytes : List UInt8) (flags : Flags) :
    2 * binary.number (chainBack rotateRightCarry bytes flags).1 +
        (chainBack rotateRightCarry bytes flags).2.carry.toNat =
      binary.number bytes + 256 ^ bytes.length * flags.carry.toNat := by
  induction bytes with
  | nil => simp [chainBack]
  | cons byte bytes ih =>
    simp only [chainBack, Numerals.number_cons, List.length_cons, Nat.pow_succ]
    generalize chainBack rotateRightCarry bytes flags = more at ih ⊢
    have here := double_rotateRightCarry byte more.2
    generalize rotateRightCarry byte more.2 = out at here ⊢
    calc
      _ = 2 * out.1.toNat + out.2.carry.toNat + 256 * (2 * binary.number more.1) := by
        simp only [binary]; ring
      _ = byte.toNat + 256 * (2 * binary.number more.1 + more.2.carry.toNat) := by rw [here]; ring
      _ = _ := by rw [ih]; simp only [binary]; ring

theorem length_chain (operate : α → Flags → UInt8 × Flags) (operands : List α) (flags : Flags) :
    (chain operate operands flags).1.length = operands.length := by
  induction operands generalizing flags with
  | nil => rfl
  | cons operand rest ih => exact congrArg (· + 1) (ih (operate operand flags).2)

theorem length_chainBack (operate : α → Flags → UInt8 × Flags) (operands : List α) (flags : Flags) :
    (chainBack operate operands flags).1.length = operands.length := by
  induction operands with
  | nil => rfl
  | cons operand rest ih => exact congrArg (· + 1) ih

/-- The highest bit of a number of so many bytes says whether twice the number is too large for them. -/
theorem testBit_highest {number bytes : Nat} (fits : number < 256 ^ (bytes + 1)) :
    number.testBit (8 * (bytes + 1) - 1) = decide (256 ^ (bytes + 1) ≤ 2 * number) := by
  have power : 256 ^ (bytes + 1) = 2 ^ (8 * (bytes + 1) - 1 + 1) := by
    rw [Nat.sub_add_cancel (by omega), Nat.pow_mul]
  rw [power] at fits ⊢
  by_cases high : 2 ^ (8 * (bytes + 1) - 1) ≤ number
  · rw [Nat.testBit_of_two_pow_le_and_two_pow_add_one_gt high fits, decide_eq_true (by omega)]
  · rw [Nat.testBit_lt_two_pow (by omega), decide_eq_false (by omega)]

/-- What a chain of shifts to the left leaves. -/
structure Doubled (bytes : List UInt8) (out : List UInt8 × Flags) : Prop where
  length : out.1.length = bytes.length
  number : binary.number out.1 = 2 * binary.number bytes % 256 ^ bytes.length
  /-- The bit that does not fit. -/
  carry : out.2.carry = (binary.number bytes).testBit (8 * bytes.length - 1)

theorem doubled_of_shiftLeft (low : UInt8) (bytes : List UInt8) :
    let first := shiftLeft low
    let more := chain rotateLeftCarry bytes first.2
    Doubled (low :: bytes) (first.1 :: more.1, more.2) := by
  intro first more
  have start : first = rotateLeftCarry low {} := shiftLeft_eq low
  have whole : (first.1 :: more.1, more.2) = chain rotateLeftCarry (low :: bytes) {} := by
    simp only [more, start, chain]
  have double := double_of_chain (low :: bytes) {}
  have length := length_chain rotateLeftCarry (low :: bytes) {}
  rw [whole]
  generalize chain rotateLeftCarry (low :: bytes) {} = out at double length ⊢
  have fits := binary_number_lt out.1
  have small := binary_number_lt (low :: bytes)
  rw [length] at fits
  simp only [Bool.toNat_false, Nat.add_zero] at double
  refine ⟨length, ?_, ?_⟩
  · rw [← double, Nat.add_mul_mod_self_left, Nat.mod_eq_of_lt fits]
  · rw [List.length_cons, testBit_highest small, ← List.length_cons (a := low), ← double]
    cases out.2.carry
    · simpa using fits
    · simp

/-- What a chain of shifts to the right leaves, with the number as it is read. -/
structure Halved (read : List UInt8 → Int) (bytes : List UInt8) (out : List UInt8 × Flags) : Prop where
  length : out.1.length = bytes.length
  number : read out.1 = read bytes / 2
  /-- The bit that is left over. -/
  carry : out.2.carry = (binary.number bytes).testBit 0

/-- Rotations to the right halve a number, if its highest byte is halved. -/
theorem double_of_halves {bytes : List UInt8} {top : UInt8} {first : UInt8 × Flags} {sign : Bool}
    (half : 2 * first.1.toNat + first.2.carry.toNat = top.toNat + 256 * sign.toNat) :
    let more := chainBack rotateRightCarry bytes first.2
    2 * binary.number (more.1 ++ [first.1]) + more.2.carry.toNat =
      binary.number (bytes ++ [top]) + 256 ^ (bytes ++ [top]).length * sign.toNat := by
  intro more
  have double : 2 * binary.number more.1 + more.2.carry.toNat =
      binary.number bytes + 256 ^ bytes.length * first.2.carry.toNat := double_chainBack bytes first.2
  have length : more.1.length = bytes.length := length_chainBack ..
  simp only [Numerals.number_concat, length, List.length_append, List.length_singleton, Nat.pow_succ]
  show 2 * (binary.number more.1 + 256 ^ bytes.length * first.1.toNat) + more.2.carry.toNat =
    binary.number bytes + 256 ^ bytes.length * top.toNat + 256 ^ bytes.length * 256 * sign.toNat
  calc
    _ = 2 * binary.number more.1 + more.2.carry.toNat + 256 ^ bytes.length * (2 * first.1.toNat) := by ring
    _ = binary.number bytes + 256 ^ bytes.length * (2 * first.1.toNat + first.2.carry.toNat) := by
      rw [double]; ring
    _ = _ := by rw [half]; ring

theorem halved_of_shiftRight (bytes : List UInt8) (top : UInt8) :
    let first := shiftRight top
    let more := chainBack rotateRightCarry bytes first.2
    Halved (fun bytes => binary.number bytes) (bytes ++ [top]) (more.1 ++ [first.1], more.2) := by
  intro first more
  have half : 2 * first.1.toNat + first.2.carry.toNat = top.toNat + 256 * false.toNat := by
    show 2 * (shiftRight top).1.toNat + (shiftRight top).2.carry.toNat = _
    rw [shiftRight_eq]
    exact double_rotateRightCarry top {}
  have double : 2 * binary.number (more.1 ++ [first.1]) + more.2.carry.toNat =
      binary.number (bytes ++ [top]) + 256 ^ (bytes ++ [top]).length * false.toNat := double_of_halves half
  simp only [Bool.toNat_false, Nat.mul_zero, Nat.add_zero] at double
  have bit := more.2.carry.toNat_le
  refine ⟨?_, ?_, ?_⟩
  · simp [more, length_chainBack]
  · dsimp only
    omega
  · rw [Nat.testBit_zero, ← double]
    cases more.2.carry
    · simp
    · simp

theorem halved_of_shiftRightSigned (bytes : List UInt8) (top : UInt8) :
    let first := shiftRightSigned top
    let more := chainBack rotateRightCarry bytes first.2
    Halved signed (bytes ++ [top]) (more.1 ++ [first.1], more.2) := by
  intro first more
  have half : 2 * first.1.toNat + first.2.carry.toNat = top.toNat + 256 * (hasBit top 7).toNat := by
    show 2 * (shiftRightSigned top).1.toNat + (shiftRightSigned top).2.carry.toNat = _
    rw [shiftRightSigned_eq]
    exact double_rotateRightCarry top { carry := hasBit top 7 }
  have double : 2 * binary.number (more.1 ++ [first.1]) + more.2.carry.toNat =
      binary.number (bytes ++ [top]) + 256 ^ (bytes ++ [top]).length * (hasBit top 7).toNat :=
    double_of_halves half
  have bit := more.2.carry.toNat_le
  have length : (more.1 ++ [first.1]).length = (bytes ++ [top]).length := by simp [more, length_chainBack]
  -- The highest bit of the highest byte is still the sign.
  have sign : hasBit first.1 7 = hasBit top 7 := by
    have every : ∀ byte : UInt8, hasBit (shiftRightSigned byte).1 7 = hasBit byte 7 :=
      forall_byte (by decide +kernel)
    exact every top
  refine ⟨length, ?_, ?_⟩
  · rw [signed_concat, signed_concat, length, sign]
    have whole : (2 * binary.number (more.1 ++ [first.1]) + more.2.carry.toNat : Int) =
        binary.number (bytes ++ [top]) + (256 ^ (bytes ++ [top]).length : Nat) * ((hasBit top 7).toNat : Int) := by
      exact_mod_cast double
    omega
  · have even : 256 ^ (bytes ++ [top]).length * (hasBit top 7).toNat =
        2 * (256 ^ bytes.length * 128 * (hasBit top 7).toNat) := by
      rw [List.length_append, List.length_singleton, Nat.pow_succ]
      ring
    rw [even] at double
    generalize 256 ^ bytes.length * 128 * (hasBit top 7).toNat = rest at double
    rw [Nat.testBit_zero, Bool.eq_iff_iff, decide_eq_true_iff, ← Bool.toNat_eq_one]
    dsimp only
    omega

/-! ## Words -/

/-- The sum of two words is the chain of two bytes. -/
theorem addWord_eq_chain (x y : UInt16) (flags : Flags) :
    let bytes := chain addColumn [(lowByte x, lowByte y), (highByte x, highByte y)] {}
    bytes.1 = [lowByte (addWord x y flags).1, highByte (addWord x y flags).1] ∧
      (addWord x y flags).2 = { bytes.2 with zero := flags.zero } := by
  have left := x.toNat_lt
  have right := y.toNat_lt
  have carry : (decide (256 ≤ x.toNat % 256 + y.toNat % 256)).toNat = (x.toNat % 256 + y.toNat % 256) / 256 := by
    rw [toNat_decide]
    split <;> omega
  simp only [chain, addColumn, add, addWord, toNat_lowByte, toNat_highByte, Bool.toNat_false, Nat.add_zero, carry]
  refine ⟨?_, ?_⟩
  · simp only [List.cons.injEq, and_true]
    constructor
    · apply UInt8.toNat_inj.mp
      simp only [UInt8.toNat_ofNat', toNat_lowByte, UInt16.toNat_add]
      omega
    · apply UInt8.toNat_inj.mp
      simp only [UInt8.toNat_ofNat', toNat_highByte, UInt16.toNat_add]
      omega
  · simp only [Flags.mk.injEq, true_and, decide_eq_decide]
    omega

/-- A signed byte is added to a word with its sign. -/
theorem toNat_addSigned (word : UInt16) (offset : UInt8) :
    ((addSigned word offset).1.toNat : Int) = ((word.toNat : Int) + offset.toInt8.toInt) % 65536 := by
  have value : offset.toInt8.toInt = (offset.toNat : Int).bmod 256 := BitVec.toInt_eq_toNat_bmod offset.toBitVec
  have small := offset.toNat_lt
  have wide := word.toNat_lt
  rw [value, Int.bmod_def, addSigned, UInt16.toNat_add, signExtend, UInt16.toNat_ofNat']
  by_cases negative : 128 ≤ offset.toNat
  · rw [if_neg (by omega), if_neg (by omega)]
    omega
  · rw [if_pos (by omega), if_pos (by omega)]
    omega

/-- Its flags are those of its unsigned sum with the low byte. -/
theorem flags_addSigned (word : UInt16) (offset : UInt8) :
    (addSigned word offset).2 = { (add (lowByte word) offset false).2 with zero := false } := by
  simp only [addSigned, add, toNat_lowByte, Bool.toNat_false, Nat.add_zero, Flags.mk.injEq, true_and,
    and_true, decide_eq_decide]
  omega

/-! ## Long numbers -/

/-- **Arithmetic on numbers of any length**, byte by byte. -/
structure LongArithmetic : Prop where
  sum : ∀ xs ys flags, xs.length = ys.length →
    binary.Totals xs ys flags.carry (chain addColumn (xs.zip ys) flags)
  difference : ∀ xs ys flags, xs.length = ys.length →
    binary.Differs xs ys flags.carry (chain subColumn (xs.zip ys) flags)
  /-- The lowest byte is shifted to the left, and the others are rotated, upwards. -/
  left : ∀ low bytes, let first := shiftLeft low
    let more := chain rotateLeftCarry bytes first.2
    Doubled (low :: bytes) (first.1 :: more.1, more.2)
  /-- The highest byte is shifted to the right, and the others are rotated, downwards. -/
  right : ∀ bytes top, let first := shiftRight top
    let more := chainBack rotateRightCarry bytes first.2
    Halved (fun bytes => binary.number bytes) (bytes ++ [top]) (more.1 ++ [first.1], more.2)
  /-- If the shift keeps the sign, it is the number with its sign that is halved, and rounded down. -/
  rightSigned : ∀ bytes top, let first := shiftRightSigned top
    let more := chainBack rotateRightCarry bytes first.2
    Halved signed (bytes ++ [top]) (more.1 ++ [first.1], more.2)
  /-- The sum of two words is a chain of two bytes, and has the flags of its second addition but for zero, which
  it keeps. -/
  word : ∀ x y flags, let bytes := chain addColumn [(lowByte x, lowByte y), (highByte x, highByte y)] {}
    bytes.1 = [lowByte (addWord x y flags).1, highByte (addWord x y flags).1] ∧
      (addWord x y flags).2 = { bytes.2 with zero := flags.zero }
  /-- A signed byte is added to a word with its sign, and the flags are those of adding it to the low byte
  without, but for zero, which is clear. -/
  offset : ∀ word offset,
    ((addSigned word offset).1.toNat : Int) = ((word.toNat : Int) + offset.toInt8.toInt) % 65536 ∧
      (addSigned word offset).2 = { (add (lowByte word) offset false).2 with zero := false }

/-- **Chains of byte operations compute with numbers of any length.** -/
theorem long_arithmetic : LongArithmetic where
  sum _ _ flags same := binary_adds.totals same (fun _ _ => trivial) (fun _ _ => trivial) flags
  difference _ _ flags same := binary_subtracts.differs same (fun _ _ => trivial) (fun _ _ => trivial) flags
  left := doubled_of_shiftLeft
  right := halved_of_shiftRight
  rightSigned := halved_of_shiftRightSigned
  word := addWord_eq_chain
  offset word offset := ⟨toNat_addSigned word offset, flags_addSigned word offset⟩

end Arithmetic
end DotMatrix
