import DotMatrix.Proofs.Cartridge.Format
import DotMatrix.Proofs.Text.Utf8
import Mathlib.Data.List.TakeWhile

/-! # Titles

The field of a title ends before its last byte if that is the flag of the colour hardware, and the title ends
before the first zero byte of the field.  So the title is read from the bytes up to there and from no others
(`takeWhile_titleField`), and a text that fits into the field is the title of every image that holds it there
(`title_of_holds`), as every image does once the text is stored in it (`holds_withTitle`).  Whatever the bytes
are, the title is a text without NUL and without white space at its ends (`titled`).
-/
namespace DotMatrix.Header
open Text.Utf8 (encode)

/-! ## Texts and images -/

/-- A text that can be a title: there is room for its bytes, and reading takes nothing away from it.  The last
byte of the field is a byte of the title only if it is not the flag of the colour hardware. -/
structure Fits (text : String) : Prop where
  filled : '\x00' ∉ text.toList
  trimmed : Text.Trimmed text.toList
  room : (encode text).length ≤ 15 ∨
    (encode text).length = 16 ∧ ∀ last ∈ (encode text).getLast?, last < 0x80

/-- An image holds a text where its title is.  Behind a text that leaves room stands a zero byte; behind fifteen
bytes the flag of the colour hardware, bit 7 of its byte, may be set instead. -/
structure Holds (image : ByteArray) (text : String) : Prop where
  bytes : bytesFrom image 0x134 (encode text).length = encode text
  stop : (encode text).length ≤ 15 → byteAt image (0x134 + (encode text).length) = 0 ∨
    (encode text).length = 15 ∧ 0x80 ≤ byteAt image 0x143

section
variable {image : ByteArray} {header : Header} {text : String}

/-! ## The field -/

theorem supportsColour_iff (flag : UInt8) : supportsColour flag = true ↔ 0x80 ≤ flag := by
  revert flag
  exact forall_byte (by decide +kernel)

theorem titleField_of_colour (colour : 0x80 ≤ byteAt image 0x143) :
    titleField image = bytesFrom image 0x134 15 := by
  rw [titleField, if_pos ((supportsColour_iff _).mpr colour)]

theorem titleField_of_plain (plain : byteAt image 0x143 < 0x80) :
    titleField image = bytesFrom image 0x134 16 := by
  rw [titleField, if_neg ((supportsColour_iff _).not.mpr (UInt8.not_le.mpr plain))]

theorem bytesFrom_add (image : ByteArray) (offset count more : Nat) :
    bytesFrom image offset (count + more) =
      bytesFrom image offset count ++ bytesFrom image (offset + count) more := by
  rw [bytesFrom, ← List.range'_append_1, List.map_append]
  rfl

theorem bytesFrom_eq {offset : Nat} {bytes : List UInt8}
    (each : ∀ place < bytes.length, byteAt image (offset + place) = bytes[place]?.getD 0) :
    bytesFrom image offset bytes.length = bytes := by
  refine List.ext_getElem (by simp [bytesFrom]) fun place _ inside => ?_
  simp only [bytesFrom, List.getElem_map, List.getElem_range', Nat.one_mul]
  rw [each place inside, List.getElem?_eq_getElem inside, Option.getD_some]

/-- A zero byte at one of the sixteen places is in the field: it is no flag. -/
theorem exists_titleField_eq {count : Nat} (inside : count ≤ 15) (zero : byteAt image (0x134 + count) = 0) :
    ∃ more, titleField image = bytesFrom image 0x134 count ++ 0 :: bytesFrom image (0x135 + count) more := by
  have parts (more : Nat) : bytesFrom image 0x134 (count + (more + 1)) =
      bytesFrom image 0x134 count ++ 0 :: bytesFrom image (0x135 + count) more := by
    have next : 0x134 + count + 1 = 0x135 + count := by omega
    rw [bytesFrom_add, ← zero, ← next]
    rfl
  by_cases colour : 0x80 ≤ byteAt image 0x143
  · have before : count ≠ 15 := by
      rintro rfl
      rw [zero] at colour
      exact absurd colour (by decide)
    obtain ⟨more, length⟩ : ∃ more, 15 = count + (more + 1) := ⟨14 - count, by omega⟩
    exact ⟨more, by rw [titleField_of_colour colour, length, parts]⟩
  · obtain ⟨more, length⟩ : ∃ more, 16 = count + (more + 1) := ⟨15 - count, by omega⟩
    exact ⟨more, by rw [titleField_of_plain (UInt8.not_le.mp colour), length, parts]⟩

/-- **Only what stands before a zero byte counts.** -/
theorem takeWhile_titleField {count : Nat} (inside : count ≤ 15) (zero : byteAt image (0x134 + count) = 0) :
    (titleField image).takeWhile (· != 0) = (bytesFrom image 0x134 count).takeWhile (· != 0) := by
  obtain ⟨more, field⟩ := exists_titleField_eq inside zero
  rw [field, List.takeWhile_append]
  split
  · rename_i whole
    rw [List.takeWhile_cons_of_neg (by simp), List.append_nil]
    exact ((List.takeWhile_prefix _).eq_of_length whole).symm
  · rfl

/-! ## Reading a title -/

theorem title_of_read (accepted : read image = .ok header) :
    header.title = titleText (titleField image) := by
  revert accepted
  unfold read
  by_cases short : image.size < limit
  · rw [if_pos short]
    rintro ⟨⟩
  rw [if_neg short]
  dsimp only
  cases Kind.ofCode? (byteAt image 0x147) with
  | none => rintro ⟨⟩
  | some kind =>
    cases romSize? (byteAt image 0x148) with
    | none => rintro ⟨⟩
    | some romSize =>
      dsimp only
      cases readRamSize kind image with
      | error => rintro ⟨⟩
      | ok ramSize =>
        cases readLicensee image with
        | error => rintro ⟨⟩
        | ok licensee =>
          intro accepted
          rw [← Except.ok.inj accepted]

theorem nul_notMem_titleText (field : List UInt8) : '\x00' ∉ (titleText field).toList := by
  rw [titleText, String.toList_ofList]
  intro member
  have zero := (Text.Utf8.nul_mem_decode_iff _).mp ((Text.trim_sublist _).mem member)
  have filled := List.mem_takeWhile_imp zero
  exact absurd filled (by decide)

theorem trimmed_titleText (field : List UInt8) : Text.Trimmed (titleText field).toList := by
  rw [titleText, String.toList_ofList]
  exact Text.trimmed_trim _

/-- **Images that agree up to a zero byte of the field** have the same title, whatever stands behind it. -/
theorem title_eq_of_agree {other : ByteArray} {found : Header} {count : Nat}
    (accepted : read image = .ok header) (accepted' : read other = .ok found) (inside : count ≤ 15)
    (zero : byteAt image (0x134 + count) = 0)
    (agree : ∀ place ≤ count, byteAt other (0x134 + place) = byteAt image (0x134 + place)) :
    found.title = header.title := by
  have zero' : byteAt other (0x134 + count) = 0 := (agree count (Nat.le_refl _)).trans zero
  have before : bytesFrom other 0x134 count = bytesFrom image 0x134 count := by
    refine List.map_congr_left fun offset member => ?_
    obtain ⟨low, high⟩ := List.mem_range'_1.mp member
    obtain ⟨place, rfl⟩ := Nat.exists_eq_add_of_le low
    exact agree place (by omega)
  rw [title_of_read accepted, title_of_read accepted', titleText, titleText,
    takeWhile_titleField inside zero, takeWhile_titleField inside zero', before]

/-- The bytes of the text are those that the title is read from. -/
theorem takeWhile_of_holds (fits : Fits text) (holds : Holds image text) :
    (titleField image).takeWhile (· != 0) = encode text := by
  have zero : 0 ∉ encode text := (Text.Utf8.zero_mem_encode_iff text).not.mpr fits.filled
  have whole : (encode text).takeWhile (· != 0) = encode text := by
    rw [List.takeWhile_eq_self_iff]
    intro byte member
    exact bne_iff_ne.mpr (ne_of_mem_of_not_mem member zero)
  have bytes := holds.bytes
  rcases fits.room with short | ⟨full, last⟩
  · rcases holds.stop short with stop | ⟨length, colour⟩
    · rw [takeWhile_titleField short stop, bytes, whole]
    · rw [length] at bytes
      rw [titleField_of_colour colour, bytes, whole]
  · have plain : byteAt image 0x143 < 0x80 := by
      rw [full, bytesFrom_add image 0x134 15 1] at bytes
      refine last _ ?_
      rw [← bytes, List.getLast?_append]
      rfl
    rw [full] at bytes
    rw [titleField_of_plain plain, bytes, whole]

/-- **A text that fits is the title of the images that hold it.** -/
theorem title_of_holds (accepted : read image = .ok header) (fits : Fits text) (holds : Holds image text) :
    header.title = text := by
  rw [title_of_read accepted, titleText, takeWhile_of_holds fits holds, Text.Utf8.decode_encode,
    Text.trim_eq_self fits.trimmed, String.ofList_toList]

/-! ## Storing a title -/

/-- The image with a text as its title: the bytes of the text, and zero bytes in the rest of the field. -/
def withTitle (image : ByteArray) (text : String) : ByteArray :=
  ⟨Array.ofFn fun offset : Fin image.size =>
    if 0x134 ≤ offset.val ∧ offset.val < 0x144 then (encode text)[offset.val - 0x134]?.getD 0
    else byteAt image offset.val⟩

theorem size_withTitle (image : ByteArray) (text : String) : (withTitle image text).size = image.size :=
  Array.size_ofFn

theorem byteAt_withTitle (long : 0x150 ≤ image.size) (offset : Nat) : byteAt (withTitle image text) offset =
    if 0x134 ≤ offset ∧ offset < 0x144 then (encode text)[offset - 0x134]?.getD 0 else byteAt image offset := by
  rw [byteAt_eq_getD, withTitle, Array.getElem?_ofFn]
  by_cases inside : offset < image.size
  · rw [dif_pos inside]
    rfl
  · have beyond : ¬ (0x134 ≤ offset ∧ offset < 0x144) := by omega
    rw [dif_neg inside, if_neg beyond, byteAt, dif_neg inside]
    rfl

theorem holds_withTitle (long : 0x150 ≤ image.size) (fits : Fits text) : Holds (withTitle image text) text where
  bytes := by
    have most : (encode text).length ≤ 16 := by
      rcases fits.room with short | ⟨full, -⟩
      · exact Nat.le_succ_of_le short
      · exact Nat.le_of_eq full
    refine bytesFrom_eq fun place inside => ?_
    have there : 0x134 ≤ 0x134 + place ∧ 0x134 + place < 0x144 := by omega
    rw [byteAt_withTitle long, if_pos there, Nat.add_sub_cancel_left]
  stop := by
    intro short
    have there : 0x134 ≤ 0x134 + (encode text).length ∧ 0x134 + (encode text).length < 0x144 := by omega
    refine .inl ?_
    rw [byteAt_withTitle long, if_pos there, Nat.add_sub_cancel_left,
      List.getElem?_eq_none (Nat.le_refl _), Option.getD_none]

/-- The title is no reason to refuse an image. -/
theorem exists_read_withTitle (accepted : read image = .ok header) (text : String) :
    ∃ stored, read (withTitle image text) = .ok stored := by
  have passed := (exists_read_iff image).mp ⟨header, accepted⟩
  have long := long_of_read accepted
  have same (offset : Nat) (behind : 0x144 ≤ offset) :
      byteAt (withTitle image text) offset = byteAt image offset := by
    rw [byteAt_withTitle long, if_neg (by omega)]
  have licensed : Licensed (withTitle image text) ↔ Licensed image := by
    rw [Licensed, Licensed, same _ (by decide), same _ (by decide), same _ (by decide)]
  rw [exists_read_iff]
  simpa [checks, size_withTitle, same, licensed] using passed

/-- An image of zeros, but for a text where the title is and the flag of the colour hardware. -/
def coloured (text : String) : ByteArray :=
  ⟨Array.ofFn fun offset : Fin 0x150 =>
    if offset.val = 0x143 then 0x80 else if offset.val < 0x134 then 0
    else (encode text)[offset.val - 0x134]?.getD 0⟩

theorem byteAt_coloured (text : String) {offset : Nat} (inside : offset < 0x150) :
    byteAt (coloured text) offset = if offset = 0x143 then 0x80 else if offset < 0x134 then 0
      else (encode text)[offset - 0x134]?.getD 0 := by
  rw [byteAt_eq_getD, coloured, Array.getElem?_ofFn, dif_pos inside]
  rfl

theorem size_coloured (text : String) : (coloured text).size = 0x150 := Array.size_ofFn

theorem holds_coloured (full : (encode text).length = 15) : Holds (coloured text) text where
  bytes := by
    refine bytesFrom_eq fun place inside => ?_
    have before : ¬ 0x134 + place = 0x143 := by omega
    have behind : ¬ 0x134 + place < 0x134 := by omega
    rw [byteAt_coloured text (by omega), if_neg before, if_neg behind, Nat.add_sub_cancel_left]
  stop := by
    intro _
    have flag : byteAt (coloured text) 0x143 = 0x80 := byteAt_coloured text (by decide)
    refine .inr ⟨full, ?_⟩
    rw [flag]
    decide

/-! ## All there is to say -/

/-- **The title of an image.** -/
structure Titled (image : ByteArray) (title : String) : Prop where
  /-- If the image holds a text that fits, this is the title. -/
  reads : ∀ text, Fits text → Holds image text → title = text
  /-- Every text that fits can be stored, and is then the title. -/
  stores : ∀ text, Fits text → ∃ stored, read (withTitle image text) = .ok stored ∧ stored.title = text
  /-- There is no NUL in the title, -/
  filled : '\x00' ∉ title.toList
  /-- and no white space at its ends. -/
  trimmed : Text.Trimmed title.toList
  /-- An image with the same bytes up to a zero byte has the same title, whatever stands behind it. -/
  settled : ∀ count ≤ 15, byteAt image (0x134 + count) = 0 → ∀ other found, read other = .ok found →
    (∀ place ≤ count, byteAt other (0x134 + place) = byteAt image (0x134 + place)) → found.title = title

/-- **Every image that is accepted** has a title like this. -/
theorem titled (accepted : read image = .ok header) : Titled image header.title where
  reads _ := title_of_holds accepted
  stores := by
    intro text fits
    have long := long_of_read accepted
    obtain ⟨stored, again⟩ := exists_read_withTitle accepted text
    exact ⟨stored, again, title_of_holds again fits (holds_withTitle long fits)⟩
  filled := by
    rw [title_of_read accepted]
    exact nul_notMem_titleText _
  trimmed := by
    rw [title_of_read accepted]
    exact trimmed_titleText _
  settled := by
    intro count inside zero other found accepted' agree
    exact title_eq_of_agree accepted accepted' inside zero agree

/-- Fifteen bytes of a title, the last two of them for one character, stand before the flag. -/
theorem titled_up_to_the_flag : ∃ header, read (coloured "la mer en été") = .ok header ∧
    Titled (coloured "la mer en été") header.title ∧ header.title = "la mer en été" := by
  have front : "la mer en été".toList.head? = some 'l' := by decide
  have back : "la mer en été".toList.getLast? = some 'é' := by decide
  have trimmed : Text.Trimmed "la mer en été".toList := by
    constructor
    · rw [front]
      rintro _ ⟨⟩
      decide
    · rw [back]
      rintro _ ⟨⟩
      decide
  have fits : Fits "la mer en été" := ⟨by decide, trimmed, by decide⟩
  have passes : ∀ check ∈ checks (coloured "la mer en été"), check.passes = true := by
    simp (disch := decide) only [checks, Licensed, byteAt_coloured, size_coloured]
    decide
  obtain ⟨header, accepted⟩ := (exists_read_iff _).mpr passes
  have title := titled accepted
  exact ⟨header, accepted, title, title.reads _ fits (holds_coloured (by decide))⟩

end
end DotMatrix.Header
