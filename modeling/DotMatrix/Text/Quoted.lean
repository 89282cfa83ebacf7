/-! # Quoted text

Text between double quotes, in which every character that would not show is spelled out. Two-sign
escapes stand for the common control characters, the quote and the backslash; any other character
that does not print is given by its code point in lower-case hexadecimal between braces. The rule
covers the code points up to U+00FF, which is all a byte can name.
-/
namespace DotMatrix.Text.Quoted

/-- Lower-case hexadecimal digits without leading zeros; `width` bounds their number. -/
def codeDigits : (width value : Nat) → List Char
  | 0, _ => []
  | width + 1, value =>
    let digit := value % 16
    let last := if digit < 10 then Char.ofNat (48 + digit) else Char.ofNat (87 + digit)
    if value < 16 then [last] else codeDigits width (value / 16) ++ [last]

/-- Characters up to U+00FF with no glyph of their own: the two control ranges and the soft
hyphen, and the no-break space, which looks like a blank. -/
def isHidden (char : Char) : Bool :=
  char.toNat < 0x20 || (0x7F ≤ char.toNat && char.toNat ≤ 0xA0) || char.toNat == 0xAD

/-- The characters that stand for `char` between quotes. -/
def escape (char : Char) : List Char :=
  match char with
  | '\x00' => ['\\', '0']
  | '\t' => ['\\', 't']
  | '\n' => ['\\', 'n']
  | '\r' => ['\\', 'r']
  | '"' => ['\\', '"']
  | '\\' => ['\\', '\\']
  | _ =>
    if isHidden char then ['\\', 'u', '\x7b'] ++ codeDigits 6 char.toNat ++ ['\x7d'] else [char]

/-- The text in quotes. -/
def quote (text : List Char) : String :=
  String.ofList ('"' :: text.flatMap escape ++ ['"'])

end DotMatrix.Text.Quoted
