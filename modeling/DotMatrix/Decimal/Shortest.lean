/-! # Shortest decimals

A binary floating-point number stands for every real number that rounds to it. The text of such a
number is the decimal with the fewest digits among those reals, of two with equally many the nearer
one, and of two equally near the one further from zero; it is written out in full, without an
exponent. Everything is decided by comparing natural numbers.
-/
namespace DotMatrix.Decimal

/-! ## What a number stands for -/

/-- A positive number and the reals that round to it, counted in one unit. -/
structure Span where
  low : Nat
  value : Nat
  high : Nat
  /-- The unit is `unitNum / unitDen`. -/
  unitNum : Nat
  unitDen : Nat
  /-- Whether the two ends round to the number as well. -/
  closed : Bool
  deriving DecidableEq

namespace Span

/-- The number `mantissa * 2 ^ (exponent - 1074)`. Its neighbour below is half as far away as the one
above when the mantissa is the least of its binade. -/
def ofParts (mantissa exponent : Nat) (narrow : Bool) : Span :=
  { low := 4 * mantissa - (if narrow then 1 else 2)
    value := 4 * mantissa
    high := 4 * mantissa + 2
    unitNum := Nat.pow 2 exponent
    unitDen := Nat.pow 2 1076
    closed := mantissa % 2 == 0 }

/-- A decimal `digits * 10 ^ (place - 400)` in units, both sides made whole. -/
def weigh (span : Span) (digits place : Nat) : Nat := digits * Nat.pow 10 place * span.unitDen

/-- A count of units in the measure of `weigh`. -/
def measure (span : Span) (units : Nat) : Nat := units * span.unitNum * Nat.pow 10 400

/-- Whether a decimal rounds to the number. -/
def holds (span : Span) (digits place : Nat) : Bool :=
  let weight := span.weigh digits place
  if span.closed then span.measure span.low ≤ weight && weight ≤ span.measure span.high
  else span.measure span.low < weight && weight < span.measure span.high

/-- The decimal at a place that rounds to the number; of two, the nearer one, and of two equally near
the greater. -/
def atPlace? (span : Span) (place : Nat) : Option Nat :=
  let below := span.measure span.value / (Nat.pow 10 place * span.unitDen)
  let rest := span.measure span.value - span.weigh below place
  match span.holds below place && below != 0, span.holds (below + 1) place with
  | true, true => some (if 2 * rest < Nat.pow 10 place * span.unitDen then below else below + 1)
  | true, false => some below
  | false, true => some (below + 1)
  | false, false => none

/-- The decimal with the fewest digits, as digits and a place; places count from `10 ^ (-400)`. -/
def shortest (span : Span) : Nat × Nat :=
  let places := (List.range 800).reverse
  match places.findSome? fun place => (span.atPlace? place).map fun digits => (digits, place) with
  | some found => found
  | none => (0, 400)

end Span

/-! ## Text -/

/-- The decimal `digits * 10 ^ (place - 400)` written out in full. -/
def positional (digits place : Nat) : String :=
  if 400 ≤ place then toString (digits * Nat.pow 10 (place - 400))
  else
    let width := 400 - place
    let shown := (toString digits).toList
    let padded := List.replicate (width + 1 - shown.length) '0' ++ shown
    String.ofList (padded.take (padded.length - width)) ++ "." ++
      String.ofList (padded.drop (padded.length - width))

/-- The text of the number with the given bits: sign, eleven bits of exponent, 52 bits of
fraction. -/
def ofBits (bits : Nat) : String :=
  let fraction := bits % Nat.pow 2 52
  let exponent := bits / Nat.pow 2 52 % Nat.pow 2 11
  let sign := if bits / Nat.pow 2 63 % 2 = 1 then "-" else ""
  if exponent = 2047 then if fraction = 0 then sign ++ "inf" else "NaN"
  else if exponent = 0 ∧ fraction = 0 then sign ++ "0"
  else
    let span :=
      if exponent = 0 then Span.ofParts fraction 0 false
      else Span.ofParts (Nat.pow 2 52 + fraction) (exponent - 1) (fraction = 0 ∧ 1 < exponent)
    let (digits, place) := span.shortest
    sign ++ positional digits place

/-- The text of a floating-point number. -/
def text (number : Float) : String := ofBits number.toBits.toNat

end DotMatrix.Decimal
