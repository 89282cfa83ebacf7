import DotMatrix.Proofs.MemoryMap.Calls
import Mathlib.Data.List.Induction

/-! # Plain memory

Work memory, high memory and the registers without a device keep what is stored in them.  Three blocks
of memory lie behind these addresses, each with its own size, and the register of the boot program lies
in one of them, too (`slot`).  A store changes one byte of one block (`block_write`), and nothing else
reads the blocks; so a byte is always the last one stored (`read_perform`, and by induction
`read_performs`).
-/
namespace DotMatrix
namespace MemoryMap

/-! ## Addresses -/

/-- The addresses at which a byte stays until the next one is stored: work memory with its second
appearance, high memory, and the registers without a device. -/
def Plain (address : UInt16) : Prop :=
  (0xC000 ≤ address ∧ address ≤ 0xFDFF) ∨ (0xFF80 ≤ address ∧ address ≤ 0xFFFE) ∨
    address = 0xFF03 ∨ (0xFF08 ≤ address ∧ address ≤ 0xFF0E) ∨
    (0xFF10 ≤ address ∧ address ≤ 0xFF3F) ∨ (0xFF4C ≤ address ∧ address ≤ 0xFF4F) ∨
    (0xFF51 ≤ address ∧ address ≤ 0xFF7F)

/-- Two addresses of one byte: equal ones, and those of work memory that differ by its size. -/
def SameByte (first second : UInt16) : Prop :=
  first = second ∨
    ((0xC000 ≤ first ∧ first ≤ 0xFDFF) ∧ (0xC000 ≤ second ∧ second ≤ 0xFDFF) ∧
      first.toNat % 0x2000 = second.toNat % 0x2000)

instance : DecidablePred Plain := fun _ => inferInstanceAs (Decidable (_ ∨ _))

instance (first second : UInt16) : Decidable (SameByte first second) :=
  inferInstanceAs (Decidable (_ ∨ _))

/-- The region of a plain address. -/
theorem Plain.region {address : UInt16} (plain : Plain address) :
    Region.of address = .work ∨ Region.of address = .high ∨ Region.of address = .spare := by
  unfold Plain at plain
  simp only [UInt16.le_iff_toNat_le, ← UInt16.toNat_inj, UInt16.reduceToNat] at plain
  rcases plain with ⟨low, upper⟩ | ⟨low, upper⟩ | register
  · exact .inl (Region.Located.work low (by omega)).of_eq
  · exact .inr (.inl (Region.Located.high low (by omega)).of_eq)
  · exact .inr (.inr (Region.Located.spare register).of_eq)

/-! ## The three blocks -/

/-- The blocks of memory behind plain addresses. -/
inductive Block where
  | work
  | high
  | spare
  deriving DecidableEq

/-- The bytes of a block. -/
def Block.size : Block → Nat
  | .work => 0x2000
  | .high | .spare => 0x80

instance (block : Block) : @NeZero Nat Zero.ofOfNat0 block.size := ⟨by cases block <;> decide⟩

/-- The block that answers in a region. -/
def blockOf : Region → Option Block
  | .work => some .work
  | .high => some .high
  | .spare | .boot => some .spare
  | _ => none

/-- The content of a block. -/
def block (map : MemoryMap) : (block : Block) → Ram block.size
  | .work => map.work
  | .high => map.high
  | .spare => map.spare

/-- The block that answers at an address, and the number of the byte in it. -/
def slot (address : UInt16) : Option (Block × Nat) :=
  (blockOf (Region.of address)).map fun block => (block, address.toNat % block.size)

/-- **Plain addresses share a byte only within work memory.** -/
theorem slot_eq_iff {first : UInt16} (plain : Plain first) (second : UInt16) :
    slot first = slot second ↔ SameByte first second := by
  have here := Region.located_of first
  have there := Region.located_of second
  unfold SameByte slot
  simp only [UInt16.le_iff_toNat_le, ← UInt16.toNat_inj, UInt16.reduceToNat]
  revert there
  rcases plain.region with region | region | region
  all_goals
    rw [region] at here ⊢
    cases here
    cases Region.of second
    all_goals
      intro there
      cases there
      simp only [blockOf, Block.size, Option.map, Option.some.injEq, Prod.mk.injEq, reduceCtorEq,
        true_and, false_and, false_iff]
      omega

theorem read_of_block (map : MemoryMap) {address : UInt16} {block : Block}
    (answers : blockOf (Region.of address) = some block) :
    map.read address = (map.block block).read address.toNat := by
  unfold read
  cases region : Region.of address <;> rw [region] at answers <;> cases answers <;> rfl

/-- **A store changes one byte of one block**, or none. -/
theorem block_write (map : MemoryMap) (address : UInt16) (value : UInt8) (block : Block) :
    (map.write address value).block block =
      if blockOf (Region.of address) = some block then
        (map.block block).write address.toNat value
      else map.block block := by
  cases region : Region.of address with
  | video | objects =>
    simp only [write, region, blockOf, reduceCtorEq, if_false]
    split <;> rfl
  | _ =>
    simp only [write, region]
    cases block <;> rfl

/-- Reading after a store, where a block answers. -/
theorem read_write_of_block (map : MemoryMap) {address : UInt16} {block : Block}
    (answers : blockOf (Region.of address) = some block) (stored : UInt16) (value : UInt8) :
    (map.write stored value).read address =
      if slot stored = slot address then value else map.read address := by
  rw [read_of_block _ answers, read_of_block _ answers, block_write]
  unfold slot
  rw [answers]
  by_cases same : blockOf (Region.of stored) = some block
  · rw [if_pos same, Ram.read_write, same]
    simp
  · rw [if_neg same, if_neg]
    intro equal
    obtain ⟨other, found, pair⟩ := Option.map_eq_some_iff.mp equal
    rw [(Prod.mk.inj pair).1] at found
    exact same found

/-- A store in plain memory does not reach what answers elsewhere. -/
theorem read_write_of_no_block (map : MemoryMap) {stored : UInt16} (plain : Plain stored)
    (value : UInt8) {address : UInt16} (unanswered : blockOf (Region.of address) = none) :
    (map.write stored value).read address = map.read address := by
  rcases plain.region with region | region | region
  all_goals
    simp only [write, region]
    unfold read
    cases other : Region.of address <;> rw [other] at unanswered <;> first | rfl | cases unanswered

/-! ## One operation -/

/-- A block answers at every plain address. -/
theorem Plain.answers {address : UInt16} (plain : Plain address) :
    ∃ block, blockOf (Region.of address) = some block := by
  rcases plain.region with region | region | region <;> rw [region]
  · exact ⟨.work, rfl⟩
  · exact ⟨.high, rfl⟩
  · exact ⟨.spare, rfl⟩

/-- The register of the boot program is not plain, though it lies in a block. -/
theorem Plain.not_boot {address : UInt16} (plain : Plain address) : ¬ SameByte address 0xFF50 := by
  rintro (rfl | ⟨-, ⟨-, upper⟩, -⟩)
  · revert plain
    decide
  · revert upper
    decide

/-- What an operation stores in the byte of an address, if anything.  The power that comes on again
stores 0. -/
def Operation.store? (address : UInt16) : Operation → Option UInt8
  | .call (.write stored value) => if SameByte address stored then some value else none
  | .reset => some 0
  | _ => none

theorem block_tick (map : MemoryMap) (block : Block) : map.tick.block block = map.block block := by
  unfold tick tickDma
  split <;> cases block <;> rfl

/-- **After an operation a plain address reads what was stored**, or what it read before. -/
theorem read_perform (map : MemoryMap) {address : UInt16} (plain : Plain address)
    (operation : Operation) :
    (map.perform operation).read address = (operation.store? address).getD (map.read address) := by
  obtain ⟨block, answers⟩ := plain.answers
  have kept {after : MemoryMap} (same : after.block block = map.block block) :
      after.read address = map.read address := by
    rw [read_of_block after answers, read_of_block map answers, same]
  have write (stored : UInt16) (value : UInt8) : (map.write stored value).read address =
      if SameByte address stored then value else map.read address := by
    simp only [map.read_write_of_block answers, eq_comm (a := slot stored), slot_eq_iff plain]
  cases operation with
  | call made =>
    cases made with
    | write stored value =>
      show (map.write stored value).read address = Option.getD (if _ then _ else _) _
      rw [write]
      split <;> rfl
    | tick => exact kept (map.block_tick block)
    | poll | read | acknowledge | resetDivider => exact kept (by cases block <;> rfl)
  | reset =>
    show map.reset.read address = 0
    rw [read_of_block map.reset answers]
    cases block <;> exact Ram.read_zeroed _
  | mapBoot image =>
    -- The blocks are as after a store in the register of the boot program.
    have same : (map.mapBoot image).block block = (map.write 0xFF50 0).block block := by
      cases block <;> rfl
    show (map.mapBoot image).read address = map.read address
    rw [read_of_block _ answers, same, ← read_of_block _ answers, write, if_neg plain.not_boot]
  | insert | changeCart | hold | takeSerial | takeFrame => exact kept (by cases block <;> rfl)

/-! ## Any run -/

/-- What was stored last in the byte of an address. -/
def lastStore? (address : UInt16) (made : List Operation) : Option UInt8 :=
  made.reverse.findSome? (Operation.store? address)

theorem lastStore?_concat (address : UInt16) (made : List Operation) (last : Operation) :
    lastStore? address (made ++ [last]) = (last.store? address).or (lastStore? address made) := by
  unfold lastStore?
  rw [List.reverse_concat, List.findSome?_cons]
  cases last.store? address <;> rfl

/-- **After any operations a plain address reads what was stored last**, or what it read at first. -/
theorem read_performs (map : MemoryMap) {address : UInt16} (plain : Plain address)
    (made : List Operation) :
    (map.performs made).read address = (lastStore? address made).getD (map.read address) := by
  induction made using List.reverseRecOn with
  | nil => rfl
  | append_singleton made last ih =>
    rw [performs_append, lastStore?_concat]
    show ((map.performs made).perform last).read address = _
    rw [read_perform _ plain, ih]
    cases last.store? address <;> rfl

/-- At first plain memory is zero. -/
theorem read_start {start : MemoryMap} (new : start = powerOn ∨ start = afterBoot)
    {address : UInt16} (plain : Plain address) : start.read address = 0 := by
  rcases new with rfl | rfl
  · exact read_perform powerOn plain .reset
  · -- The boot program leaves only its own register behind.
    obtain ⟨block, answers⟩ := plain.answers
    have same : afterBoot.block block = (powerOn.write 0xFF50 1).block block := by
      cases block <;> rfl
    rw [read_of_block _ answers, same, ← read_of_block _ answers]
    have stored := read_perform powerOn plain (.call (.write 0xFF50 1))
    rw [Operation.store?, if_neg plain.not_boot] at stored
    exact stored.trans (read_perform powerOn plain .reset)

/-- **Plain memory remembers.**  A plain address reads what was stored last in its byte since the power
came on, whatever else was stored, ticked, copied or asked meanwhile, and 0 before any store; and to store
there changes what is read at no other address, apart from those of the same byte. -/
theorem plain_memory_remembers (address : UInt16) (plain : Plain address) :
    (∀ start, start = powerOn ∨ start = afterBoot → ∀ made : List Operation,
      (start.performs made).read address = (lastStore? address made).getD 0) ∧
    ∀ (map : MemoryMap) (value : UInt8) (other : UInt16), ¬ SameByte address other →
      (map.write address value).read other = map.read other := by
  constructor
  · intro start new made
    rw [read_performs start plain made, read_start new plain]
  · intro map value other apart
    cases answers : blockOf (Region.of other) with
    | some block =>
      rw [read_write_of_block map answers, if_neg]
      rwa [slot_eq_iff plain]
    | none => exact read_write_of_no_block map plain value answers

/-- A byte of work memory that is stored at its second appearance, while a copy is under way. -/
theorem plain_memory_remembers_second_appearance :
    let made : List Operation :=
      [.call (.write 0xC123 7), .call (.write 0xFF46 0xC1), .call .tick, .call .tick,
        .call (.write 0xE123 9), .call .tick, .call (.write 0xC124 1), .call .resetDivider]
    Plain 0xC123 ∧ (afterBoot.performs made).read 0xC123 = 9 ∧ ¬ SameByte 0xC123 0xFE01 ∧
      (powerOn.write 0xC123 5).read 0xFE01 = powerOn.read 0xFE01 := by
  intro made
  have plain : Plain 0xC123 := by decide
  have apart : ¬ SameByte 0xC123 0xFE01 := by decide
  obtain ⟨remembers, elsewhere⟩ := plain_memory_remembers 0xC123 plain
  exact ⟨plain, remembers afterBoot (.inr rfl) made, apart, elsewhere powerOn 5 0xFE01 apart⟩

end MemoryMap
end DotMatrix
