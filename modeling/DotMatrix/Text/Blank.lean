/-! # White space

The characters with the Unicode property `White_Space`, and text without them at its ends. Trimming takes
them away from there (`trimmed_trim`) and takes nothing else (`trim_eq_self`).
-/
namespace DotMatrix.Text

/-- The ranges of code points that are white space, in ascending order. -/
def blankRanges : List (Nat × Nat) :=
  [(0x09, 0x0D), (0x20, 0x20), (0x85, 0x85), (0xA0, 0xA0), (0x1680, 0x1680), (0x2000, 0x200A),
    (0x2028, 0x2029), (0x202F, 0x202F), (0x205F, 0x205F), (0x3000, 0x3000)]

/-- Whether a character is white space. -/
def isBlank (char : Char) : Bool :=
  blankRanges.any fun (first, last) => first ≤ char.toNat && char.toNat ≤ last

/-- The text from its first to its last character that is not white space. -/
def trim (text : List Char) : List Char :=
  ((text.dropWhile isBlank).reverse.dropWhile isBlank).reverse

/-- Text that neither starts nor ends with white space. -/
structure Trimmed (text : List Char) : Prop where
  front : ∀ char ∈ text.head?, isBlank char = false
  back : ∀ char ∈ text.getLast?, isBlank char = false

theorem dropWhile_of_front {text : List Char} (front : ∀ char ∈ text.head?, isBlank char = false) :
    text.dropWhile isBlank = text := by
  cases text with
  | nil => rfl
  | cons char rest => exact List.dropWhile_cons_of_neg (Bool.eq_false_iff.mp (front char rfl))

theorem front_dropWhile (text : List Char) :
    ∀ char ∈ (text.dropWhile isBlank).head?, isBlank char = false := by
  intro char found
  have kept := List.head?_dropWhile_not isBlank text
  rwa [found] at kept

/-- Text without white space at its ends stays as it is. -/
theorem trim_eq_self {text : List Char} (trimmed : Trimmed text) : trim text = text := by
  have back : ∀ char ∈ text.reverse.head?, isBlank char = false := by
    rw [List.head?_reverse]
    exact trimmed.back
  rw [trim, dropWhile_of_front trimmed.front, dropWhile_of_front back, List.reverse_reverse]

theorem isPrefix_trim (text : List Char) : trim text <+: text.dropWhile isBlank := by
  have suffix : _ <:+ (text.dropWhile isBlank).reverse := List.dropWhile_suffix isBlank
  rwa [← List.reverse_prefix, List.reverse_reverse] at suffix

/-- Nothing is added, and nothing is moved. -/
theorem trim_sublist (text : List Char) : (trim text).Sublist text :=
  (isPrefix_trim text).sublist.trans (List.dropWhile_suffix isBlank).sublist

/-- What is left has no white space at its ends. -/
theorem trimmed_trim (text : List Char) : Trimmed (trim text) where
  front := by
    intro char found
    obtain ⟨rest, whole⟩ := isPrefix_trim text
    refine front_dropWhile text char ?_
    rw [← whole, List.head?_append, Option.mem_def.mp found]
    rfl
  back := by
    rw [trim, List.getLast?_reverse]
    exact front_dropWhile _

end DotMatrix.Text
