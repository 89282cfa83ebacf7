import DotMatrix.Text.Utf8
import DotMatrix.Word
import Mathlib.Logic.Basic

/-! # Written text is read back

The reader follows a sequence from its first byte and never looks back.  What it makes of a first byte and
the bytes after it is compared here with the sequence that a character is written as: a character is read
exactly where its sequence stands (`read_iff`).  So text that is written is read back (`decode_encode`),
whatever stands behind it.  Bytes that are no text stand for characters too, but none of these is NUL, which
comes of the zero byte alone (`nul_mem_decode_iff`).
-/
namespace DotMatrix.Text.Utf8

/-! ## Sequences -/

/-- The first byte of the sequence for a code point beyond ASCII. -/
def first (code : Nat) : Nat :=
  if code < 0x800 then code / 64 + 0xC0
  else if code < 0x10000 then code / 4096 + 0xE0
  else code / 262144 + 0xF0

/-- How many bytes follow the first one. -/
def further (code : Nat) : Nat :=
  if code < 0x800 then 1 else if code < 0x10000 then 2 else 3

/-- A code point without the bits that the last `count` bytes hold, six bits in each of them. -/
def upper (code : Nat) : (count : Nat) → Nat
  | 0 => code
  | count + 1 => upper code count / 64

/-- The last `count` bytes of the sequence, the highest bits first. -/
def tail (code : Nat) : (count : Nat) → List UInt8
  | 0 => []
  | count + 1 => UInt8.ofNat (upper code count % 64 + 0x80) :: tail code count

/-- A sequence has two, three or four bytes. -/
theorem first_further (code : Nat) :
    (code < 0x800 ∧ first code = code / 64 + 0xC0 ∧ further code = 1) ∨
    (0x800 ≤ code ∧ code < 0x10000 ∧ first code = code / 4096 + 0xE0 ∧ further code = 2) ∨
    (0x10000 ≤ code ∧ first code = code / 262144 + 0xF0 ∧ further code = 3) := by
  unfold first further
  by_cases two : code < 0x800
  · simp [two]
  by_cases three : code < 0x10000
  · simp [two, three]
    omega
  · simp [two, three]
    omega

/-- A character beyond ASCII is written as the sequence for its code point. -/
theorem encodeChar_eq {char : Char} (beyond : 0x80 ≤ char.toNat) :
    String.utf8EncodeChar char =
      UInt8.ofNat (first char.toNat) :: tail char.toNat (further char.toNat) := by
  have valid : char.toNat.isValidChar := char.valid
  unfold Nat.isValidChar at valid
  unfold String.utf8EncodeChar
  change (if char.toNat ≤ 0x7F then _ else if char.toNat ≤ 0x7FF then _ else
    if char.toNat ≤ 0xFFFF then _ else _) = _
  rw [if_neg (by omega)]
  rcases first_further char.toNat with
    ⟨two, start, length⟩ | ⟨three, most, start, length⟩ | ⟨four, start, length⟩
  · have share : char.toNat / 64 % 32 = char.toNat / 64 := Nat.mod_eq_of_lt (by omega)
    rw [if_pos (by omega), start, length]
    simp [tail, upper, share]
  · have share : char.toNat / 4096 % 16 = char.toNat / 4096 := Nat.mod_eq_of_lt (by omega)
    rw [if_neg (by omega), if_pos (by omega), start, length]
    simp [tail, upper, share]
  · have share : char.toNat / 262144 % 8 = char.toNat / 262144 := Nat.mod_eq_of_lt (by omega)
    rw [if_neg (by omega), if_neg (by omega), start, length]
    simp [tail, upper, share, Nat.div_div_eq_div_mul]

/-! ## Reading a sequence -/

/-- A first byte announces a code point: its share comes first, and the second byte is within bounds. -/
def Lead.Announces (lead : Lead) (code : Nat) : Prop :=
  lead.bits * 64 + lead.low.toNat ≤ upper code (lead.more - 1) + 0x80 ∧
    upper code (lead.more - 1) + 0x80 ≤ lead.bits * 64 + lead.high.toNat

/-- The sequence for the code point of a character beyond ASCII begins with a byte. -/
def Begins (byte : UInt8) (code : Nat) : Prop :=
  0x80 ≤ code ∧ code.isValidChar ∧ byte.toNat = first code

/-- **A first byte announces the code points whose sequence it begins**, and the length of the sequence. -/
theorem Lead.announces_iff {byte : UInt8} {lead : Lead} (known : ofByte? byte = some lead) (code : Nat) :
    (lead.Announces code ↔ Begins byte code) ∧ (Begins byte code → lead.more = further code) := by
  have small := byte.toNat_lt
  have sizes := first_further code
  unfold Announces Begins Nat.isValidChar
  unfold ofByte? at known
  simp only [UInt8.lt_iff_toNat_lt, ← UInt8.toNat_inj, UInt8.reduceToNat] at known
  split at known
  · exact absurd known nofun
  -- One case for each row of the table.
  repeat
    split at known
    · obtain rfl := Option.some.inj known
      simp only [Nat.reduceSub, upper, UInt8.reduceToNat]
      omega
  exact absurd known nofun

variable {low high : UInt8} {value count code : Nat} {bytes rest : List UInt8}

/-- A byte that follows is read exactly if it is the next one of the tail, given this for the bytes after it.
The second byte of a sequence has bounds of its own, and so the induction is on the bytes after it. -/
theorem follow_succ_iff (above : 0x80 ≤ low.toNat) (below : high.toNat ≤ 0xBF)
    (later : ∀ value more, follow 0x80 0xBF value count more = (some code, rest) ↔
      upper code count = value ∧ more = tail code count ++ rest) :
    follow low high value (count + 1) bytes = (some code, rest) ↔
      (value * 64 + low.toNat ≤ upper code count + 0x80 ∧
        upper code count + 0x80 ≤ value * 64 + high.toNat) ∧
      bytes = tail code (count + 1) ++ rest := by
  have part : (UInt8.ofNat (upper code count % 64 + 0x80)).toNat = upper code count % 64 + 0x80 := by
    rw [UInt8.toNat_ofNat']
    omega
  cases bytes with
  | nil => simp [follow, tail]
  | cons byte more =>
    rw [follow, tail, List.cons_append, List.cons.injEq, ← UInt8.toNat_inj, part]
    simp only [UInt8.le_iff_toNat_le]
    split
    · rename_i inside
      rw [later]
      constructor
      · rintro ⟨share, rfl⟩
        refine ⟨?_, ?_, rfl⟩ <;> omega
      · rintro ⟨within, same, rfl⟩
        refine ⟨?_, rfl⟩
        omega
    · rename_i outside
      refine iff_of_false nofun ?_
      rintro ⟨within, same, -⟩
      omega

/-- **Following bytes are read exactly if they are the tail of a code point** that begins with the share
read so far. -/
theorem follow_iff : follow 0x80 0xBF value count bytes = (some code, rest) ↔
    upper code count = value ∧ bytes = tail code count ++ rest := by
  induction count generalizing value bytes with
  | zero => simp [follow, upper, tail, eq_comm]
  | succ count ih =>
    have low : (0x80 : UInt8).toNat = 0x80 := rfl
    have high : (0xBF : UInt8).toNat = 0xBF := rfl
    rw [follow_succ_iff (Nat.le_refl _) (Nat.le_refl _) fun _ _ => ih, low, high, upper]
    refine and_congr_left fun _ => ?_
    omega

/-- The bounds of a second byte are within those of the others. -/
theorem Lead.bounds {byte : UInt8} {lead : Lead} (known : ofByte? byte = some lead) :
    0 < lead.more ∧ 0x80 ≤ lead.low.toNat ∧ lead.high.toNat ≤ 0xBF := by
  have all : ∀ byte, ∀ lead ∈ ofByte? byte,
      0 < lead.more ∧ 0x80 ≤ lead.low.toNat ∧ lead.high.toNat ≤ 0xBF :=
    forall_byte (by decide +kernel)
  exact all byte lead known

theorem Lead.isSome_ofByte?_iff (byte : UInt8) :
    (ofByte? byte).isSome = true ↔ 0xC2 ≤ byte.toNat ∧ byte.toNat ≤ 0xF4 := by
  revert byte
  exact forall_byte (by decide +kernel)

theorem Lead.follow_iff {byte : UInt8} {lead : Lead} (known : ofByte? byte = some lead) :
    follow lead.low lead.high lead.bits lead.more bytes = (some code, rest) ↔
      lead.Announces code ∧ bytes = tail code lead.more ++ rest := by
  obtain ⟨long, above, below⟩ := Lead.bounds known
  obtain ⟨count, length⟩ := Nat.exists_eq_add_one.mpr long
  rw [Announces, length]
  exact follow_succ_iff above below fun _ _ => Utf8.follow_iff

/-- **A sequence is read exactly where a character beyond ASCII is written**, and as this character. -/
theorem read_iff {byte : UInt8} :
    (∃ lead, Lead.ofByte? byte = some lead ∧
      follow lead.low lead.high lead.bits lead.more bytes = (some code, rest)) ↔
      ∃ char : Char, 0x80 ≤ char.toNat ∧ char.toNat = code ∧
        byte :: bytes = String.utf8EncodeChar char ++ rest := by
  constructor
  · rintro ⟨lead, known, found⟩
    obtain ⟨announced, rfl⟩ := (Lead.follow_iff known).mp found
    have begins := (Lead.announces_iff known code).1.mp announced
    have length := (Lead.announces_iff known code).2 begins
    obtain ⟨beyond, valid, same⟩ := begins
    obtain ⟨char, rfl⟩ : ∃ char : Char, char.toNat = code := ⟨Char.ofNatAux code valid, rfl⟩
    refine ⟨char, beyond, rfl, ?_⟩
    rw [encodeChar_eq beyond, length, ← same, UInt8.ofNat_toNat, List.cons_append]
  · rintro ⟨char, beyond, rfl, same⟩
    rw [encodeChar_eq beyond, List.cons_append, List.cons.injEq] at same
    obtain ⟨rfl, rfl⟩ := same
    have valid : char.toNat.isValidChar := char.valid
    have range : 0xC2 ≤ first char.toNat ∧ first char.toNat ≤ 0xF4 := by
      have sizes := first_further char.toNat
      unfold Nat.isValidChar at valid
      omega
    have small : (UInt8.ofNat (first char.toNat)).toNat = first char.toNat := by
      rw [UInt8.toNat_ofNat']
      omega
    obtain ⟨lead, known⟩ :=
      Option.isSome_iff_exists.mp ((Lead.isSome_ofByte?_iff _).mpr (small.symm ▸ range))
    have begins : Begins (UInt8.ofNat (first char.toNat)) char.toNat := ⟨beyond, valid, small⟩
    obtain ⟨announces, length⟩ := Lead.announces_iff known char.toNat
    exact ⟨lead, known, (Lead.follow_iff known).mpr ⟨announces.mpr begins, by rw [length begins]⟩⟩

/-! ## Reading text -/

/-- **A character that is written is read first**, whatever stands behind it. -/
theorem decode_encodeChar (char : Char) (rest : List UInt8) :
    decode (String.utf8EncodeChar char ++ rest) = char :: decode rest := by
  by_cases beyond : 0x80 ≤ char.toNat
  · obtain ⟨byte, bytes, same⟩ : ∃ byte bytes, String.utf8EncodeChar char ++ rest = byte :: bytes :=
      ⟨_, _, congrArg (· ++ rest) (encodeChar_eq beyond)⟩
    obtain ⟨lead, known, found⟩ := read_iff.mpr ⟨char, beyond, rfl, same.symm⟩
    have high : ¬ byte < 0x80 := by
      intro low
      have range := (Lead.isSome_ofByte?_iff byte).mp (Option.isSome_of_mem known)
      have low : byte.toNat < 0x80 := UInt8.lt_iff_toNat_lt.mp low
      omega
    rw [same, decode, if_neg high]
    simp only [known, found, Char.ofNat_toNat]
  · have small : (UInt8.ofNat char.toNat).toNat = char.toNat := by
      rw [UInt8.toNat_ofNat']
      omega
    have ascii : String.utf8EncodeChar char = [UInt8.ofNat char.toNat] :=
      if_pos (show char.toNat ≤ 0x7F by omega)
    have low : UInt8.ofNat char.toNat < 0x80 := by
      rw [UInt8.lt_iff_toNat_lt, small]
      exact Nat.lt_of_not_le beyond
    rw [ascii, List.singleton_append, decode, if_pos low, small, Char.ofNat_toNat]

theorem decode_flatMap (chars : List Char) : decode (chars.flatMap String.utf8EncodeChar) = chars := by
  induction chars with
  | nil => rw [List.flatMap_nil, decode]
  | cons char chars ih => rw [List.flatMap_cons, decode_encodeChar, ih]

/-- The bytes that a text is written as. -/
def encode (text : String) : List UInt8 := text.toUTF8.data.toList

/-- **Text that is written is read back.** -/
theorem decode_encode (text : String) : decode (encode text) = text.toList := by
  have written : encode text = text.toList.flatMap String.utf8EncodeChar := by
    rw [encode, String.toUTF8_eq_toByteArray, ← String.utf8Encode_toList, List.utf8Encode,
      List.data_toByteArray]
  rw [written, decode_flatMap]

/-! ## Zero bytes -/

/-- A zero byte is never taken into a sequence. -/
theorem zero_mem_follow_iff {value more : Nat} (above : 0x80 ≤ low.toNat) :
    0 ∈ (follow low high value more bytes).2 ↔ 0 ∈ bytes := by
  fun_induction follow low high value more bytes with
  | case1 => rfl
  | case2 => rfl
  | case3 low high value more byte rest inside ih =>
    have filled : (0 : UInt8) ≠ byte := by
      rintro rfl
      exact absurd (Nat.le_trans above (UInt8.le_iff_toNat_le.mp inside.1)) (by decide)
    rw [ih (by decide), List.mem_cons, or_iff_right filled]
  | case4 => rfl

/-- **NUL is read from the zero byte**, and from nothing else. -/
theorem nul_mem_decode_iff (bytes : List UInt8) : '\x00' ∈ decode bytes ↔ 0 ∈ bytes := by
  have ascii : ∀ byte : UInt8, byte < 0x80 → ('\x00' = Char.ofNat byte.toNat ↔ 0 = byte) :=
    forall_byte (by decide +kernel)
  have filled {byte : UInt8} (high : ¬ byte < 0x80) : 0 ≠ byte := by
    rintro rfl
    exact high (by decide)
  have replaced : '\x00' ≠ replacement := by decide
  fun_induction decode bytes with
  | case1 => simp
  | case2 byte rest low ih =>
    rw [List.mem_cons, List.mem_cons, ascii byte low]
    exact or_congr_right ih
  | case3 byte rest high unknown ih =>
    rw [List.mem_cons, List.mem_cons, or_iff_right replaced, or_iff_right (filled high)]
    exact ih
  | case4 byte rest high lead known _ value found ih =>
    obtain ⟨char, beyond, rfl, -⟩ := read_iff.mp ⟨lead, known, Prod.ext found rfl⟩
    have other : '\x00' ≠ Char.ofNat char.toNat := by
      rw [Char.ofNat_toNat]
      rintro rfl
      exact absurd beyond (by decide)
    rw [List.mem_cons, List.mem_cons, or_iff_right other, or_iff_right (filled high)]
    exact ih.trans (zero_mem_follow_iff (Lead.bounds known).2.1)
  | case5 byte rest high lead known _ broken ih =>
    rw [List.mem_cons, List.mem_cons, or_iff_right replaced, or_iff_right (filled high)]
    exact ih.trans (zero_mem_follow_iff (Lead.bounds known).2.1)

theorem zero_mem_encode_iff (text : String) : 0 ∈ encode text ↔ '\x00' ∈ text.toList := by
  rw [← nul_mem_decode_iff, decode_encode]

end DotMatrix.Text.Utf8
