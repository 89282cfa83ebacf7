import DotMatrix.Cartridge.Header
import DotMatrix.Proofs.Memory.Banked

/-! # The format of an image

An image is refused for the first of five checks that fails, and accepted if none does (`checks`).  Nothing
but the bytes of the header counts for this, and for what is read from it (`read_of_agree`).  The checksum
is read as what it is in the integers: with the bytes that it is about, and one for each of them, it comes
to a multiple of 256.
-/
namespace DotMatrix
namespace Header

/-! ## Checks -/

/-- A check of an image, and the fault that it is refused for if the check fails. -/
structure Check where
  passes : Bool
  fault : Fault

/-- The codes of the kinds that are known. -/
def knownKinds : List UInt8 :=
  [0x00, 0x01, 0x02, 0x03, 0x05, 0x06, 0x08, 0x09, 0x0F, 0x10, 0x11, 0x12, 0x13, 0x19, 0x1A, 0x1B, 0x1C,
    0x1D, 0x1E]

/-- The codes of the kinds that have their memory built in. -/
def builtInKinds : List UInt8 := [0x05, 0x06]

/-- The older code names a publisher, or it is the one for a newer code and that names one. -/
def Licensed (image : ByteArray) : Prop :=
  byteAt image 0x14B ∈ Licensee.byByte.map (·.1) ∨ byteAt image 0x14B = 0x33 ∧
    String.ofList [Char.ofNat (byteAt image 0x144).toNat, Char.ofNat (byteAt image 0x145).toNat] ∈
      Licensee.byPair.map (·.1)

instance (image : ByteArray) : Decidable (Licensed image) := inferInstanceAs (Decidable (_ ∨ _ ∧ _))

/-- All checks of an image, in order. -/
def checks (image : ByteArray) : List Check :=
  [⟨0x150 ≤ image.size, .imageTooSmall image.size⟩,
    ⟨byteAt image 0x147 ∈ knownKinds, .unsupportedCartridge (byteAt image 0x147)⟩,
    ⟨byteAt image 0x148 ≤ 8, .unknownRomSize (byteAt image 0x148)⟩,
    ⟨byteAt image 0x149 ≤ 5 ∨ byteAt image 0x147 ∈ builtInKinds, .unknownRamSize (byteAt image 0x149)⟩,
    ⟨Licensed image, if byteAt image 0x14B = 0x33 then
      .unknownNewLicensee (byteAt image 0x144) (byteAt image 0x145)
      else .unknownLicensee (byteAt image 0x14B)⟩]

/-- The fault of the first check that fails. -/
def firstFault : List Check → Option Fault
  | [] => none
  | check :: rest => if check.passes then firstFault rest else some check.fault

theorem firstFault_eq_none_iff (list : List Check) :
    firstFault list = none ↔ ∀ check ∈ list, check.passes = true := by
  induction list with
  | nil => exact ⟨fun _ _ member => absurd member List.not_mem_nil, fun _ => rfl⟩
  | cons check rest ih =>
    rw [firstFault, List.forall_mem_cons]
    split
    · rename_i passes
      rw [ih]
      exact ⟨fun all => ⟨passes, all⟩, And.right⟩
    · rename_i fails
      exact ⟨nofun, fun both => absurd both.1 fails⟩

/-- The fault of a result, if it is one. -/
def fault? {α : Type} : Except Fault α → Option Fault
  | .ok _ => none
  | .error fault => some fault

section
variable {α : Type} {passes : Prop} [Decidable passes] {fault : Fault} {rest : List Check}

theorem firstFault_of_passes (h : passes) : firstFault (⟨passes, fault⟩ :: rest) = firstFault rest :=
  if_pos (decide_eq_true h)

theorem firstFault_of_fails (h : ¬ passes) : firstFault (⟨passes, fault⟩ :: rest) = some fault :=
  if_neg (Bool.eq_false_iff.mp (decide_eq_false h))

/-- A part of a header that is looked up, and all that is read after it. -/
theorem fault?_of_lookup {β : Type} {found : Option β} {result : Except Fault α}
    (known : found.isSome = true ↔ passes) (refused : found = none → fault? result = some fault)
    (later : ∀ value, found = some value → fault? result = firstFault rest) :
    fault? result = firstFault (⟨passes, fault⟩ :: rest) := by
  cases looked : found with
  | none =>
    rw [looked] at known
    rw [refused looked, firstFault_of_fails (mt known.mpr Bool.false_ne_true)]
  | some value =>
    rw [looked] at known
    rw [later value looked, firstFault_of_passes (known.mp rfl)]

/-- A part of a header that makes a check of its own, and all that is read after it. -/
theorem fault?_bind {result : Except Fault α} {next : α → Except Fault Header}
    (first : fault? result = firstFault [⟨passes, fault⟩])
    (later : ∀ value, fault? (next value) = firstFault rest) :
    fault? (result >>= next) = firstFault (⟨passes, fault⟩ :: rest) := by
  by_cases holds : passes
  · rw [firstFault_of_passes holds] at first
    rw [firstFault_of_passes holds]
    cases result with
    | ok value => exact later value
    | error => cases first
  · rw [firstFault_of_fails holds] at first
    rw [firstFault_of_fails holds]
    cases result with
    | ok value => cases first
    | error => exact first

end

/-! ## Fields -/

theorem isSome_ofCode?_iff (code : UInt8) : (Kind.ofCode? code).isSome = true ↔ code ∈ knownKinds := by
  have known : knownKinds = Kind.all.map (·.code) := rfl
  rw [Kind.ofCode?, List.find?_isSome, known, List.mem_map]
  simp only [beq_iff_eq]

/-- The kinds of the second controller are those with built-in memory. -/
theorem controller_eq_mbc2_iff {code : UInt8} {kind : Kind} (known : Kind.ofCode? code = some kind) :
    kind.controller = .mbc2 ↔ code ∈ builtInKinds := by
  have all : ∀ kind ∈ Kind.all, kind.controller = .mbc2 ↔ kind.code ∈ builtInKinds := by decide
  rw [Kind.ofCode?] at known
  have same := List.find?_some known
  rw [all kind (List.mem_of_find?_eq_some known), eq_of_beq same]

theorem isSome_romSize?_iff (code : UInt8) : (romSize? code).isSome = true ↔ code ≤ 8 := by
  unfold romSize?
  split
  · rename_i low
    exact iff_of_true rfl low
  · rename_i high
    exact iff_of_false Bool.false_ne_true high

theorem isSome_ramSize?_iff (code : UInt8) : (ramSize? code).isSome = true ↔ code ≤ 5 := by
  revert code
  exact forall_byte (by decide +kernel)

/-- A table has a name for its keys. -/
theorem isSome_lookup_iff {α : Type} [BEq α] [LawfulBEq α] (table : List (α × String)) (code : α) :
    ((table.find? fun entry => entry.1 == code).map (·.2)).isSome = true ↔ code ∈ table.map (·.1) := by
  rw [Option.isSome_map, List.find?_isSome, List.mem_map]
  constructor
  · rintro ⟨entry, member, same⟩
    exact ⟨entry, member, eq_of_beq same⟩
  · rintro ⟨entry, member, same⟩
    exact ⟨entry, member, beq_iff_eq.mpr same⟩

theorem fault?_readRamSize {image : ByteArray} {kind : Kind}
    (known : Kind.ofCode? (byteAt image 0x147) = some kind) : fault? (readRamSize kind image) =
      firstFault [⟨byteAt image 0x149 ≤ 5 ∨ byteAt image 0x147 ∈ builtInKinds,
        .unknownRamSize (byteAt image 0x149)⟩] := by
  have builtIn := controller_eq_mbc2_iff known
  unfold readRamSize
  split
  · rename_i second
    have passes : byteAt image 0x149 ≤ 5 ∨ byteAt image 0x147 ∈ builtInKinds := .inr (builtIn.mp second)
    rw [firstFault_of_passes passes]
    rfl
  · rename_i other
    have sized : (ramSize? (byteAt image 0x149)).isSome = true ↔ _ :=
      (isSome_ramSize?_iff _).trans (or_iff_left fun member => other (builtIn.mpr member)).symm
    refine fault?_of_lookup sized (fun size => ?_) fun value size => ?_ <;> rw [size] <;> rfl

theorem fault?_readLicensee (image : ByteArray) : fault? (readLicensee image) =
    firstFault [⟨Licensed image, if byteAt image 0x14B = 0x33 then
      .unknownNewLicensee (byteAt image 0x144) (byteAt image 0x145)
      else .unknownLicensee (byteAt image 0x14B)⟩] := by
  -- The code that stands for a newer one is no older code.
  have apart : (0x33 : UInt8) ∉ Licensee.byByte.map (·.1) := by decide
  unfold readLicensee
  dsimp only
  by_cases see : byteAt image 0x14B = 0x33
  · have older : byteAt image 0x14B ∉ Licensee.byByte.map (·.1) := by rwa [see]
    have known : (Licensee.ofPair? (byteAt image 0x144) (byteAt image 0x145)).isSome = true ↔
        Licensed image :=
      (isSome_lookup_iff _ _).trans ((or_iff_right older).trans (and_iff_right see)).symm
    rw [if_pos (show byteAt image 0x14B = Licensee.seePair from see), if_pos see]
    refine fault?_of_lookup known (fun name => ?_) fun value name => ?_ <;> rw [name] <;> rfl
  · have known : (Licensee.ofByte? (byteAt image 0x14B)).isSome = true ↔ Licensed image :=
      (isSome_lookup_iff _ _).trans (or_iff_left fun both => see both.1).symm
    rw [if_neg (show ¬ byteAt image 0x14B = Licensee.seePair from see), if_neg see]
    refine fault?_of_lookup known (fun name => ?_) fun value name => ?_ <;> rw [name] <;> rfl

/-! ## Refusals -/

/-- **An image is refused for the first check that fails**, and accepted if none does. -/
theorem fault?_read (image : ByteArray) : fault? (read image) = firstFault (checks image) := by
  unfold read checks
  by_cases short : image.size < limit
  · have fails : ¬ 0x150 ≤ image.size := Nat.not_le.mpr short
    rw [if_pos short, firstFault_of_fails fails]
    rfl
  have long : 0x150 ≤ image.size := Nat.le_of_not_lt short
  rw [if_neg short, firstFault_of_passes long]
  dsimp only
  refine fault?_of_lookup (isSome_ofCode?_iff _) (fun unknown => ?_) fun kind known => ?_
  · rw [unknown]
    rfl
  rw [known]
  refine fault?_of_lookup (isSome_romSize?_iff _) (fun undeclared => ?_) fun romSize declared => ?_
  · rw [undeclared]
    rfl
  rw [declared]
  exact fault?_bind (fault?_readRamSize known) fun ramSize =>
    fault?_bind (fault?_readLicensee image) fun licensee => rfl

theorem read_eq_error_iff (image : ByteArray) (fault : Fault) :
    read image = .error fault ↔ firstFault (checks image) = some fault := by
  rw [← fault?_read]
  cases read image with
  | ok header => exact ⟨nofun, nofun⟩
  | error other => exact ⟨fun same => by cases same; rfl, fun same => by cases same; rfl⟩

theorem exists_read_iff (image : ByteArray) :
    (∃ header, read image = .ok header) ↔ ∀ check ∈ checks image, check.passes = true := by
  rw [← firstFault_eq_none_iff, ← fault?_read]
  cases read image with
  | ok header => exact iff_of_true ⟨header, rfl⟩ rfl
  | error other =>
    refine iff_of_false ?_ (Option.some_ne_none other)
    rintro ⟨header, same⟩
    cases same

/-! ## The bytes of the header -/

section
variable {image other : ByteArray}

theorem bytesFrom_of_agree (agree : ∀ offset, 0x134 ≤ offset → offset < 0x14D →
    byteAt other offset = byteAt image offset) {count : Nat} (inside : count ≤ 25) :
    bytesFrom other 0x134 count = bytesFrom image 0x134 count := by
  refine List.map_congr_left fun offset member => ?_
  obtain ⟨low, high⟩ := List.mem_range'_1.mp member
  exact agree offset low (by omega)

/-- **Images with the same bytes of the header** are read alike, but for the byte that gives the
checksum. -/
theorem read_of_agree (long : 0x150 ≤ image.size) (long' : 0x150 ≤ other.size)
    (agree : ∀ offset, 0x134 ≤ offset → offset < 0x14D → byteAt other offset = byteAt image offset) :
    read other = (read image).map fun header =>
      { header with storedChecksum := byteAt other 0x14D, checksum := checksumOf image } := by
  have title : titleField other = titleField image := by
    unfold titleField
    rw [agree 0x143 (by decide) (by decide)]
    split
    · exact bytesFrom_of_agree agree (by decide)
    · exact bytesFrom_of_agree agree (by decide)
  have sum : checksumOf other = checksumOf image := by
    unfold checksumOf
    rw [bytesFrom_of_agree agree (by decide)]
  have memory (kind : Kind) : readRamSize kind other = readRamSize kind image := by
    unfold readRamSize
    rw [agree 0x149 (by decide) (by decide)]
  have publisher : readLicensee other = readLicensee image := by
    unfold readLicensee
    rw [agree 0x14B (by decide) (by decide), agree 0x144 (by decide) (by decide),
      agree 0x145 (by decide) (by decide)]
  have enough : ¬ image.size < limit := Nat.not_lt.mpr long
  have enough' : ¬ other.size < limit := Nat.not_lt.mpr long'
  unfold read
  rw [if_neg enough, if_neg enough', title, sum, publisher,
    agree 0x143 (by decide) (by decide), agree 0x146 (by decide) (by decide),
    agree 0x147 (by decide) (by decide), agree 0x148 (by decide) (by decide),
    agree 0x14A (by decide) (by decide)]
  dsimp only
  cases Kind.ofCode? (byteAt image 0x147) with
  | none => rfl
  | some kind =>
    cases romSize? (byteAt image 0x148) with
    | none => rfl
    | some romSize =>
      dsimp only
      rw [memory]
      cases readRamSize kind image with
      | error => rfl
      | ok ramSize =>
        cases readLicensee image <;> rfl

theorem read_of_short (short : ¬ 0x150 ≤ image.size) : read image = .error (.imageTooSmall image.size) := by
  unfold read
  rw [if_pos (show image.size < limit from Nat.lt_of_not_le short)]
  rfl

theorem long_of_read {header : Header} (accepted : read image = .ok header) : 0x150 ≤ image.size := by
  refine Nat.le_of_not_lt fun short => ?_
  rw [read_of_short (Nat.not_le.mpr short)] at accepted
  cases accepted

/-- The checksums of a header that was read. -/
theorem checksums_of_read {header : Header} (accepted : read image = .ok header) :
    header.storedChecksum = byteAt image 0x14D ∧ header.checksum = checksumOf image := by
  have long := long_of_read accepted
  have same := read_of_agree long long fun _ _ _ => rfl
  rw [accepted] at same
  have same : header = _ := Except.ok.inj same
  have stored : header.storedChecksum = _ := congrArg storedChecksum same
  have computed : header.checksum = _ := congrArg checksum same
  exact ⟨stored, computed⟩

/-- Images with the same bytes of the header, the checksum included, are read alike. -/
theorem read_congr (long : 0x150 ≤ image.size) (long' : 0x150 ≤ other.size)
    (agree : ∀ offset, 0x134 ≤ offset → offset ≤ 0x14D → byteAt other offset = byteAt image offset) :
    read other = read image := by
  rw [read_of_agree long long' fun offset low high => agree offset low (Nat.le_of_lt high),
    agree 0x14D (by decide) (by decide)]
  exact (read_of_agree long long fun _ _ _ => rfl).symm

end

/-! ## The checksum -/

/-- Some bytes as numbers, added up. -/
def total (bytes : List UInt8) : Nat := bytes.foldr (fun byte sum => byte.toNat + sum) 0

/-- **The checksum, the bytes, and one for each of them** come to what the checksum began with. -/
theorem toNat_foldl_checksum (bytes : List UInt8) (start : UInt8) :
    ((bytes.foldl (fun sum byte => sum - byte - 1) start).toNat + total bytes + bytes.length) % 256 =
      start.toNat := by
  induction bytes generalizing start with
  | nil => exact Nat.mod_eq_of_lt start.toNat_lt
  | cons byte bytes ih =>
    have rest := ih (start - byte - 1)
    have small := start.toNat_lt
    have small' := byte.toNat_lt
    rw [UInt8.toNat_sub, UInt8.toNat_sub, show (1 : UInt8).toNat = 1 from rfl] at rest
    rw [List.foldl_cons, List.length_cons, total, List.foldr_cons, ← total]
    omega

theorem checksumOf_eq (image : ByteArray) :
    ((checksumOf image).toNat : Int) = -(total (bytesFrom image 0x134 25) + 25) % 256 := by
  have sum := toNat_foldl_checksum (bytesFrom image 0x134 25) 0
  have small := (checksumOf image).toNat_lt
  rw [show (bytesFrom image 0x134 25).length = 25 from rfl] at sum
  change ((checksumOf image).toNat + total (bytesFrom image 0x134 25) + 25) % 256 = 0 at sum
  omega

theorem checksumHolds_iff {image : ByteArray} {header : Header} (accepted : read image = .ok header) :
    header.checksumHolds = true ↔
      ((byteAt image 0x14D).toNat : Int) = -(total (bytesFrom image 0x134 25) + 25) % 256 := by
  obtain ⟨stored, computed⟩ := checksums_of_read accepted
  rw [← checksumOf_eq, checksumHolds, stored, computed, beq_iff_eq, Int.natCast_inj, UInt8.toNat_inj]
  exact eq_comm

/-! ## Correcting the checksum -/

/-- The image with the checksum that it has stored in its place. -/
def withChecksum (image : ByteArray) : ByteArray := ⟨image.data.setIfInBounds 0x14D (checksumOf image)⟩

theorem size_withChecksum (image : ByteArray) : (withChecksum image).size = image.size :=
  Array.size_setIfInBounds

theorem byteAt_eq_getD (image : ByteArray) (offset : Nat) : byteAt image offset = image.data[offset]?.getD 0 := by
  rw [getElem?_data]
  by_cases inside : offset < image.size
  · rw [getElem?_pos image offset inside, byteAt, dif_pos inside]
    rfl
  · rw [getElem?_neg image offset inside, byteAt, dif_neg inside]
    rfl

/-- Only one byte is stored. -/
theorem byteAt_withChecksum {image : ByteArray} (long : 0x150 ≤ image.size) (offset : Nat) :
    byteAt (withChecksum image) offset = if offset = 0x14D then checksumOf image else byteAt image offset := by
  have inside : 0x14D < image.data.size := Nat.lt_of_lt_of_le (by decide) long
  rw [byteAt_eq_getD, byteAt_eq_getD, withChecksum, Array.getElem?_setIfInBounds]
  by_cases there : offset = 0x14D
  · rw [if_pos there, if_pos there.symm, if_pos inside, Option.getD_some]
  · rw [if_neg there, if_neg (Ne.symm there)]

/-- **Storing the checksum** changes nothing of what is read but the stored checksum. -/
theorem read_withChecksum (image : ByteArray) : read (withChecksum image) =
    (read image).map fun header => { header with storedChecksum := header.checksum } := by
  by_cases long : 0x150 ≤ image.size
  · have agree (offset : Nat) (_ : 0x134 ≤ offset) (before : offset < 0x14D) :
        byteAt (withChecksum image) offset = byteAt image offset := by
      rw [byteAt_withChecksum long, if_neg (Nat.ne_of_lt before)]
    rw [read_of_agree long (size_withChecksum image ▸ long) agree, byteAt_withChecksum long, if_pos rfl]
    cases accepted : read image with
    | error fault => rw [Except.map, Except.map]
    | ok header =>
      rw [← (checksums_of_read accepted).2]
      rfl
  · have short : ¬ 0x150 ≤ (withChecksum image).size := by rwa [size_withChecksum]
    rw [read_of_short long, read_of_short short, size_withChecksum]
    rfl

/-! ## All there is to say -/

/-- **What makes an image acceptable**, and what is read from one that is. -/
structure Format (image : ByteArray) : Prop where
  /-- An image is accepted exactly if it passes all checks. -/
  accepts : (∃ header, read image = .ok header) ↔ ∀ check ∈ checks image, check.passes = true
  /-- An image is refused exactly for the first check that fails. -/
  refuses : ∀ fault, read image = .error fault ↔ firstFault (checks image) = some fault
  /-- Of an image that is long enough only the bytes of the header count. -/
  depends : ∀ other, 0x150 ≤ image.size → 0x150 ≤ other.size →
    (∀ offset, 0x134 ≤ offset → offset ≤ 0x14D → byteAt other offset = byteAt image offset) →
    read other = read image
  /-- The checksum holds if, with the bytes from the title up to it and one for each of these 25, it comes
  to a multiple of 256. -/
  checksum : ∀ header, read image = .ok header → (header.checksumHolds = true ↔
    ((byteAt image 0x14D).toNat : Int) = -(total (bytesFrom image 0x134 25) + 25) % 256)
  /-- Storing the checksum that an image has makes it hold, and changes nothing else. -/
  corrects : read (withChecksum image) =
      ((read image).map fun header => { header with storedChecksum := header.checksum }) ∧
    ∀ header, read (withChecksum image) = .ok header → header.checksumHolds = true

/-- **Every image** is read or refused like this. -/
theorem format (image : ByteArray) : Format image where
  accepts := exists_read_iff image
  refuses := read_eq_error_iff image
  depends _ := read_congr
  checksum _ := checksumHolds_iff
  corrects := by
    refine ⟨read_withChecksum image, fun header accepted => ?_⟩
    rw [read_withChecksum] at accepted
    cases earlier : read image with
    | error fault =>
      rw [earlier] at accepted
      cases accepted
    | ok found =>
      rw [earlier] at accepted
      cases accepted
      exact beq_self_eq_true found.checksum

end Header
end DotMatrix
