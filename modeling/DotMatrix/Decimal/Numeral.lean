/-! # Numerals

Text read as a floating-point number: a sign, digits with at most one point among or around them,
and a power of ten; or the words for infinity and for no number, in any case.
-/
namespace DotMatrix.Decimal

/-- A decimal digit. -/
def isDigit (char : Char) : Bool := '0' ≤ char && char ≤ '9'

/-- The number that digits spell. -/
def digitsValue (digits : List Char) : Nat :=
  digits.foldl (fun value digit => value * 10 + (digit.toNat - 48)) 0

/-- Text that is nothing but digits, at least one of them. -/
def readNat? (text : List Char) : Option Nat :=
  if text.isEmpty || !text.all isDigit then none else some (digitsValue text)

/-- A sign at the start, and what follows it. -/
def readSign : List Char → Bool × List Char
  | '-' :: rest => (true, rest)
  | '+' :: rest => (false, rest)
  | text => (false, text)

/-- An exponent, which may have a sign; no text at all stands for zero. -/
def readExponent? : List Char → Option Int
  | [] => some 0
  | mark :: rest =>
    if mark = 'e' ∨ mark = 'E' then
      match readSign rest with
      | (negative, digits) =>
        (readNat? digits).map fun value => if negative then -(value : Int) else value
    else none

/-- The number nearest to `digits * 10 ^ exponent`. Far outside the range of numbers it is infinity
or zero, which needs no power of ten. -/
def scaled (digits : Nat) (exponent : Int) : Float :=
  let magnitude := (toString digits).length + exponent
  if digits = 0 ∨ magnitude < -400 then 0
  else if 400 < magnitude then 1 / 0
  else Float.ofScientific digits (exponent < 0) exponent.natAbs

/-- A number without a sign, in digits. -/
def readMagnitude? (text : List Char) : Option Float :=
  let whole := text.takeWhile isDigit
  let rest := text.drop whole.length
  let (part, rest) := match rest with
    | '.' :: rest => (rest.takeWhile isDigit, rest.dropWhile isDigit)
    | rest => ([], rest)
  if whole.isEmpty && part.isEmpty then none
  else (readExponent? rest).map fun exponent =>
    scaled (digitsValue (whole ++ part)) (exponent - part.length)

/-- A word that stands for a number. -/
def readWord? (text : List Char) : Option Float :=
  match String.ofList (text.map Char.toLower) with
  | "inf" | "infinity" => some (1 / 0)
  | "nan" => some (0 / 0)
  | _ => none

/-- The floating-point number that a text spells. -/
def readFloat? (text : List Char) : Option Float :=
  let (negative, rest) := readSign text
  let magnitude := match readWord? rest with
    | some value => some value
    | none => readMagnitude? rest
  magnitude.map fun value => if negative then -value else value

end DotMatrix.Decimal
