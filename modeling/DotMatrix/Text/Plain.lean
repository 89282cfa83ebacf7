/-! # Plain text

Text for a reader that is no terminal. What would steer a terminal is taken out: control characters
that are not white space, and the sequences that an escape character begins, each up to the character
that ends it. The main facts are that nothing is added or moved (`strip_sublist`) and that text without
control characters stays as it is (`strip_eq_self`).
-/
namespace DotMatrix.Text.Plain

/-- White space among the control characters. -/
def isSpacing (char : Char) : Bool :=
  char == '\t' || char == '\n' || char == '\x0c' || char == '\r'

/-- Whether a character shows where no sequence has begun. -/
def shows (char : Char) : Bool :=
  (0x20 ≤ char.toNat && char != '\x7f') || isSpacing char

/-- Whether a character lies between two others, both included. -/
def within (first last char : Char) : Bool := first ≤ char && char ≤ last

/-- Which part of a sequence is read. -/
inductive Phase where
  /-- None: what is read is text. -/
  | text
  /-- What follows the escape character. -/
  | escape
  /-- What follows the escape character and a sign of the kind that asks for one more. -/
  | escapeTail
  /-- The parameters of a control sequence. -/
  | control
  /-- The beginning of a device string. -/
  | device
  /-- The parameters of a device string. -/
  | deviceParameters
  /-- What follows the parameters of a device string. -/
  | deviceTail
  /-- The content of a string that goes on to a string terminator. -/
  | string
  /-- The content of a command, which goes on to a bell. -/
  | command
  deriving DecidableEq

namespace Phase

/-- Whether white space shows although a sequence is read. -/
def passesSpacing : Phase → Bool
  | text | escape | escapeTail | control => true
  | device | deviceParameters | deviceTail | string | command => false

/-- Whether a character ends a string: the terminator is one byte, and every byte of the encoded
character counts. -/
def endsString (char : Char) : Bool := (String.utf8EncodeChar char).contains 0x9C

/-- What an escape character begins, by the character after it. -/
def ofIntroducer (char : Char) : Phase :=
  if char = '[' then control
  else if char = ']' then command
  else if char = 'P' then device
  else if char = 'X' || char = '^' || char = '_' then string
  else if within ' ' '/' char then escapeTail
  else if within '0' '~' char then text
  else escape

/-- The phase after a character that does not show. Two control characters break a sequence off, and
an escape character begins another one. -/
def next (phase : Phase) (char : Char) : Phase :=
  if char = '\x18' || char = '\x1a' then text
  else if char = '\x1b' then escape
  else
    match phase with
    | text => text
    | escape => ofIntroducer char
    | escapeTail => if within '0' '~' char then text else escapeTail
    | control => if within '@' '~' char then text else control
    | device =>
      if within ' ' '/' char then deviceTail
      else if within '0' '?' char then deviceParameters
      else if within '@' '~' char then string
      else device
    | deviceParameters =>
      if within ' ' '/' char then deviceTail
      else if within '<' '~' char then string
      else deviceParameters
    | deviceTail => if within '0' '~' char then string else deviceTail
    | string => if endsString char then text else string
    | command => if char = '\x07' then text else command

end Phase

/-- What has been read so far. -/
structure Reader where
  phase : Phase := .text
  /-- Whether the last character showed. Text that follows white space inside a sequence is read as
  text up to the next control character, where the sequence goes on. -/
  showing : Bool := true

namespace Reader

/-- Whether the next character is kept. -/
def keeps (reader : Reader) (char : Char) : Bool :=
  if reader.showing || reader.phase = .text then shows char
  else reader.phase.passesSpacing && isSpacing char

/-- Read a character. One beyond ASCII that shows ends the sequence around it. -/
def read (reader : Reader) (char : Char) : Reader :=
  if reader.keeps char then ⟨if char.toNat < 0x80 then reader.phase else .text, true⟩
  else ⟨reader.phase.next char, false⟩

end Reader

/-- The characters that are kept. -/
def strip : Reader → List Char → List Char
  | _, [] => []
  | reader, char :: rest =>
    if reader.keeps char then char :: strip (reader.read char) rest
    else strip (reader.read char) rest

/-- Nothing is added, and nothing is moved. -/
theorem strip_sublist (reader : Reader) (chars : List Char) : (strip reader chars).Sublist chars := by
  induction chars generalizing reader with
  | nil => exact .slnil
  | cons char rest ih =>
    unfold strip
    split
    · exact (ih _).cons_cons char
    · exact (ih _).cons char

/-- Text without control characters other than white space stays as it is. -/
theorem strip_eq_self (reader : Reader) (chars : List Char) (showing : reader.showing = true)
    (all : ∀ char ∈ chars, shows char = true) : strip reader chars = chars := by
  induction chars generalizing reader with
  | nil => rfl
  | cons char rest ih =>
    have kept : reader.keeps char = true := by
      simp [Reader.keeps, showing, all char (List.mem_cons_self ..)]
    simp only [strip, kept, if_true]
    rw [ih _ (by simp [Reader.read, kept]) fun c h => all c (List.mem_cons_of_mem _ h)]

end Plain

/-- The text without what would steer a terminal. -/
def plain (text : String) : String := String.ofList (Plain.strip {} text.toList)

end DotMatrix.Text
