/-! # Hexadecimal text

Numbers in base sixteen with a fixed count of digits, as addresses, bytes and words are shown
everywhere in this library: upper case, padded with zeros on the left, the lowest digit last.
-/
namespace DotMatrix.Text

/-- The upper-case digit for a value below sixteen. -/
def hexDigit (value : Nat) : Char :=
  if value < 10 then Char.ofNat (48 + value) else Char.ofNat (55 + value)

/-- The last `width` digits of `value`, the lowest digit last. -/
def hexDigits : (width value : Nat) → List Char
  | 0, _ => []
  | width + 1, value => hexDigits width (value / 16) ++ [hexDigit (value % 16)]

theorem length_hexDigits (width value : Nat) : (hexDigits width value).length = width := by
  induction width generalizing value with
  | zero => rfl
  | succ width ih => simp [hexDigits, ih]

/-- A byte as two digits. -/
def hexByte (value : UInt8) : String := String.ofList (hexDigits 2 value.toNat)

/-- A word as four digits. -/
def hexWord (value : UInt16) : String := String.ofList (hexDigits 4 value.toNat)

/-- Bytes in a row, two digits each, nothing between them. -/
def hexBytes (bytes : List UInt8) : String :=
  String.ofList (bytes.flatMap fun byte => hexDigits 2 byte.toNat)

end DotMatrix.Text
