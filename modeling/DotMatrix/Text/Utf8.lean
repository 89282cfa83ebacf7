/-! # Bytes read as UTF-8

A total reading of any bytes as text. A well-formed sequence gives its character. Where a sequence
breaks off, the bytes that could still have begun a character are taken together, stand for one
replacement character, and reading goes on with the byte that did not fit.
-/
namespace DotMatrix.Text.Utf8

/-- The character that stands for bytes that are not text. -/
def replacement : Char := '\ufffd'

/-- What the first byte of a longer sequence announces. -/
structure Lead where
  /-- Its share of the code point. -/
  bits : Nat
  /-- How many bytes follow. -/
  more : Nat
  /-- The least second byte; a smaller one would spell a code point that has a shorter form. -/
  low : UInt8 := 0x80
  /-- The greatest second byte; a greater one would leave the range of characters. -/
  high : UInt8 := 0xBF

/-- The sequences of two, three and four bytes by their first byte. -/
def Lead.ofByte? (byte : UInt8) : Option Lead :=
  if byte < 0xC2 then none
  else if byte < 0xE0 then some ⟨byte.toNat - 0xC0, 1, 0x80, 0xBF⟩
  else if byte = 0xE0 then some ⟨0, 2, 0xA0, 0xBF⟩
  else if byte = 0xED then some ⟨0xD, 2, 0x80, 0x9F⟩
  else if byte < 0xF0 then some ⟨byte.toNat - 0xE0, 2, 0x80, 0xBF⟩
  else if byte = 0xF0 then some ⟨0, 3, 0x90, 0xBF⟩
  else if byte < 0xF4 then some ⟨byte.toNat - 0xF0, 3, 0x80, 0xBF⟩
  else if byte = 0xF4 then some ⟨4, 3, 0x80, 0x8F⟩
  else none

/-- Add `more` following bytes to a code point, the next one between `low` and `high` and the
others between 0x80 and 0xBF. Nothing comes of a sequence that breaks off; what is left starts with
the byte that did not fit. -/
def follow (low high : UInt8) (value : Nat) : (more : Nat) → List UInt8 → Option Nat × List UInt8
  | 0, rest => (some value, rest)
  | _ + 1, [] => (none, [])
  | more + 1, byte :: rest =>
    if low ≤ byte ∧ byte ≤ high then
      follow 0x80 0xBF (value * 64 + (byte.toNat - 0x80)) more rest
    else (none, byte :: rest)

/-- What is left is never longer than what there was. -/
theorem length_follow_le (low high : UInt8) (value more : Nat) (bytes : List UInt8) :
    (follow low high value more bytes).2.length ≤ bytes.length := by
  fun_induction follow low high value more bytes with
  | case1 => simp
  | case2 => simp
  | case3 _ _ _ _ _ _ _ ih => simp only [List.length_cons]; omega
  | case4 => simp

/-- The text of any bytes. -/
def decode : List UInt8 → List Char
  | [] => []
  | byte :: rest =>
    if byte < 0x80 then Char.ofNat byte.toNat :: decode rest
    else
      match Lead.ofByte? byte with
      | none => replacement :: decode rest
      | some lead =>
        have := length_follow_le lead.low lead.high lead.bits lead.more rest
        match (follow lead.low lead.high lead.bits lead.more rest).1 with
        | some value => Char.ofNat value :: decode (follow lead.low lead.high lead.bits lead.more rest).2
        | none => replacement :: decode (follow lead.low lead.high lead.bits lead.more rest).2
termination_by bytes => bytes.length
decreasing_by all_goals simp only [List.length_cons]; omega

end DotMatrix.Text.Utf8
