import DotMatrix.Word

/-! # Computing in registers

The definitions of the machine compute with numbers of any size, and look into memory with a proof that
what they look for is there.  Here is the arithmetic of a processor that has neither: a number must fit the
register that holds it, a difference must not be below zero, a divisor must not be zero, a shift must be
shorter than the byte, and an array has an end.  Where one of these fails, there is no result.

The modules beside this one do the work of the machine once more with this arithmetic.  Each of their
definitions is equal to the plain one, under bounds that the machine never leaves; and so none of them is
ever without a result.
-/
namespace DotMatrix.Narrow

/-! ## Registers -/

/-- The widths in which numbers are kept. -/
inductive Width where
  | byte
  | word
  | double
  | quad
  | wide

/-- How many numbers a width tells apart. -/
def Width.limit : Width → Nat
  | byte => 256
  | word => 65536
  | double => 4294967296
  | quad => 18446744073709551616
  | wide => 340282366920938463463374607431768211456

/-- A number that a register of this width holds. -/
def fit (width : Width) (n : Nat) : Option Nat := if n < width.limit then some n else none

/-- A number that a register of this width holds if one of its bits is a sign. -/
def fitSigned (width : Width) (n : Int) : Option Int :=
  if -width.limit ≤ 2 * n ∧ 2 * n < width.limit then some n else none

section
variable {n : Nat}

theorem fit_byte (h : n < 256) : fit .byte n = some n := if_pos h

theorem fit_word (h : n < 65536) : fit .word n = some n := if_pos h

theorem fit_double (h : n < 4294967296) : fit .double n = some n := if_pos h

theorem fit_quad (h : n < 18446744073709551616) : fit .quad n = some n := if_pos h

theorem fit_wide (h : n < 340282366920938463463374607431768211456) : fit .wide n = some n := if_pos h

theorem fitSigned_word {n : Int} (low : -32768 ≤ n) (high : n < 32768) :
    fitSigned .word n = some n :=
  if_pos (by simp only [Width.limit]; omega)

theorem fitSigned_double {n : Int} (low : -2147483648 ≤ n) (high : n < 2147483648) :
    fitSigned .double n = some n :=
  if_pos (by simp only [Width.limit]; omega)

end

/-! ## Operations that have no result for some operands -/

/-- A difference that is not below zero. -/
def minus (a b : Nat) : Option Nat := if b ≤ a then some (a - b) else none

theorem minus_of_le {a b : Nat} (h : b ≤ a) : minus a b = some (a - b) := if_pos h

theorem add_eq_of_minus {a b difference : Nat} (h : minus a b = some difference) :
    difference + b = a := by
  unfold minus at h
  split at h
  · cases h
    omega
  · cases h

/-- The remainder of a division by something. -/
def remainder (a b : Nat) : Option Nat := if 0 < b then some (a % b) else none

theorem remainder_of_pos {a b : Nat} (h : 0 < b) : remainder a b = some (a % b) := if_pos h

/-- A byte shifted to the right, by fewer places than it has. -/
def shiftRight (byte : UInt8) (places : Nat) : Option UInt8 :=
  if places < 8 then some (byte >>> UInt8.ofNat places) else none

theorem shiftRight_of_lt {byte : UInt8} {places : Nat} (h : places < 8) :
    shiftRight byte places = some (byte >>> UInt8.ofNat places) := if_pos h

/-- A word shifted to the right, by fewer places than it has. -/
def shiftWord (word : UInt16) (places : Nat) : Option UInt16 :=
  if places < 16 then some (word >>> UInt16.ofNat places) else none

theorem shiftWord_of_lt {word : UInt16} {places : Nat} (h : places < 16) :
    shiftWord word places = some (word >>> UInt16.ofNat places) := if_pos h

/-- Where a part of so many elements ends, in an array that is at least as long. -/
def upTo (length count : Nat) : Option Nat := if count ≤ length then some count else none

theorem upTo_of_le {length count : Nat} (h : count ≤ length) : upTo length count = some count :=
  if_pos h

/-! ## Going on -/

section
variable {α β γ : Type}

/-- What has a result goes on with it. -/
theorem bind_of_eq {first : Option α} {next : α → Option β} {a : α} {b : β} (done : first = some a)
    (more : next a = some b) : (first >>= next) = some b := by
  subst done
  exact more

/-- A loop of which each pass has a result has one itself. -/
theorem foldlM_of_eq {pass : β → α → Option β} {plain : β → α → β} {values : List α}
    (each : ∀ state, ∀ value ∈ values, pass state value = some (plain state value)) (start : β) :
    values.foldlM pass start = some (values.foldl plain start) := by
  induction values generalizing start with
  | nil => rfl
  | cons first rest ih =>
    rw [List.foldlM_cons]
    refine bind_of_eq (each start first List.mem_cons_self) ?_
    exact ih (fun state value member => each state value (List.mem_cons_of_mem first member)) _

/-- A row of which each element has a result. -/
theorem ofFnM_of_eq {n : Nat} {checked : Fin n → Option α} {plain : Fin n → α}
    (each : ∀ i, checked i = some (plain i)) : Vector.ofFnM checked = some (Vector.ofFn plain) := by
  obtain rfl : checked = fun i => pure (plain i) := funext each
  exact Vector.ofFnM_pure

end
end DotMatrix.Narrow
