import DotMatrix.Proofs.MemoryMap.Copying

/-! # The memories of the picture

The LCD draws from two memories, and while it uses one of them the processor is kept out.  Both are kept
in the same way, so what there is to say is said once, of a `PictureMemory`: when it is open, which byte
an address stands for, and what changes that byte (`Changer`).  A single operation is looked at in
`changer_of_changed`; by induction every change in a run was made by one of its operations
(`changer_of_performs`).

The copying engine is the only other one that stores there.  It moves a byte of the 160 at a time, from
below the second appearance of work memory: that is where the engine of a reachable memory map can be
(`Dma.Course`).
-/
namespace DotMatrix

/-! ## The course of the engine -/

namespace Dma

/-- Where the engine can be: at rest since the power came on, or somewhere in the copy of a page. -/
inductive Course : Dma → Prop where
  | rest : Course {}
  | copy {base ticks : Nat} {dma : Dma} (low : base + 160 ≤ 0xE000) (stage : Stage base ticks dma) :
    Course dma

variable {dma : Dma}

theorem Course.tick (h : Course dma) : Course dma.tick.1 := by
  cases h with
  | rest => exact .rest
  | copy low stage => exact .copy low stage.tick

/-- Wherever the engine is, a copy can begin. -/
theorem course_start (dma : Dma) (page : UInt8) : Course (dma.start page) :=
  .copy (MemoryMap.sourcePage_le page) (.waiting Nat.two_pos dma.active)

/-- The byte that moves is one of the 160, and comes from below the second appearance of work
memory. -/
theorem Course.moves (h : Course dma) {index : Nat} (due : dma.tick.2 = some index) :
    index < 160 ∧ dma.source + index < 0xE000 := by
  cases h with
  | rest => cases due
  | @copy base ticks _ low stage =>
    rw [stage.due] at due
    by_cases moving : 2 ≤ ticks ∧ ticks < 162
    · rw [if_pos moving] at due
      cases due
      rw [(stage.active moving.1 moving.2).2]
      omega
    · rw [if_neg moving] at due
      cases due

end Dma

namespace MemoryMap

theorem Reachable.course {map : MemoryMap} (h : Reachable map) : map.dma.Course := by
  induction h with
  | powerOn | afterBoot => exact .rest
  | @perform map operation _ ih =>
    cases operation with
    | call made =>
      by_cases time : made = .tick
      · subst time
        show Dma.Course (MemoryMap.tick map).dma
        rw [map.ticked.dma]
        exact ih.tick
      · by_cases begun : ∃ value, made = .write 0xFF46 value
        · obtain ⟨value, rfl⟩ := begun
          exact map.dma.course_start value
        · show Dma.Course (map.call made).dma
          rw [dma_call time fun value equal => begun ⟨value, equal⟩]
          exact ih
    | reset => exact .rest
    | _ => exact ih

end MemoryMap

/-! ## Two memories -/

/-- The memories that the LCD draws from. -/
inductive PictureMemory where
  | video
  | objects
  deriving DecidableEq

namespace PictureMemory

/-- The addresses of a memory. -/
def Covers : PictureMemory → UInt16 → Prop
  | video, address => 0x8000 ≤ address ∧ address ≤ 0x9FFF
  | objects, address => 0xFE00 ≤ address ∧ address ≤ 0xFE9F

/-- Whether the processor reaches a memory.  Both are open while the LCD is off; else video memory is
closed while a line is drawn, and object memory also while sprites are searched.  A copy that is under
way closes object memory in any case. -/
def Open (map : MemoryMap) : PictureMemory → Prop
  | video => map.lcd.control.enabled = false ∨ map.lcd.mode ≠ .transfer
  | objects =>
    (map.lcd.control.enabled = false ∨ map.lcd.mode = .hblank ∨ map.lcd.mode = .vblank) ∧
      map.dma.active = false

/-- The byte at an address, open or not. -/
def byte (map : MemoryMap) : PictureMemory → UInt16 → UInt8
  | video, address => map.lcd.readVram address
  | objects, address => map.lcd.readOam address

/-- The next M-cycle of the copying engine moves a byte to an address. -/
def Moves (map : MemoryMap) (memory : PictureMemory) (address : UInt16) : Prop :=
  memory = objects ∧ map.dma.tick.2 = some (address.toNat - 0xFE00)

/-- **All that changes the byte at an address**: a store there while the memory is open, and the M-cycle
in which the copying engine moves a byte there. -/
inductive Changer (memory : PictureMemory) (map : MemoryMap) (address : UInt16) :
    MemoryMap.Operation → Prop where
  | store (value : UInt8) (accessible : memory.Open map) :
    Changer memory map address (.call (.write address value))
  | move (moves : memory.Moves map address) : Changer memory map address (.call .tick)

variable {memory : PictureMemory} {map : MemoryMap} {address : UInt16}

/-- Its region of the address space. -/
def region : PictureMemory → Region
  | video => .video
  | objects => .objects

theorem covers_iff : memory.Covers address ↔ Region.of address = memory.region := by
  have located := Region.located_of address
  constructor
  · intro covers
    cases memory <;> simp only [Covers, UInt16.le_iff_toNat_le, UInt16.reduceToNat] at covers
    · exact (Region.Located.video covers.1 (by omega)).of_eq
    · exact (Region.Located.objects covers.1 (by omega)).of_eq
  · intro region
    rw [region] at located
    cases memory <;> simp only [Covers, UInt16.le_iff_toNat_le, UInt16.reduceToNat] <;>
      cases located <;> omega

/-- The memories do not meet. -/
theorem eq_of_covers {other : PictureMemory} (covers : memory.Covers address)
    (covers' : other.Covers address) : memory = other := by
  have regions := (covers_iff.mp covers).symm.trans (covers_iff.mp covers')
  cases memory <;> cases other <;> first | rfl | cases regions

theorem open_video : video.Open map ↔ map.lcd.vramOpen = true := by
  simp [Open, Lcd.vramOpen]

theorem open_objects : objects.Open map ↔ map.objectsOpen = true := by
  simp [Open, MemoryMap.objectsOpen, Lcd.oamOpen, or_assoc]

/-- The memories are part of the LCD. -/
theorem byte_congr {other : MemoryMap} (vram : other.lcd.vram = map.lcd.vram)
    (oam : other.lcd.oam = map.lcd.oam) : memory.byte other address = memory.byte map address := by
  cases memory
  · exact congrArg (Ram.read · address.toNat) vram
  · exact congrArg (Oam.read · address.toNat) oam

/-! ## Reading and storing -/

/-- While a memory is open, its addresses read what is in it. -/
theorem read_of_open (covers : memory.Covers address) (accessible : memory.Open map) :
    map.read address = memory.byte map address := by
  have region := covers_iff.mp covers
  unfold MemoryMap.read
  rw [region]
  cases memory
  · exact if_pos (open_video.mp accessible)
  · exact if_pos (open_objects.mp accessible)

/-- While it is closed they read an open bus. -/
theorem read_of_closed (covers : memory.Covers address) (shut : ¬ memory.Open map) :
    map.read address = 0xFF := by
  have region := covers_iff.mp covers
  unfold MemoryMap.read
  rw [region]
  cases memory
  · exact if_neg (mt open_video.mpr shut)
  · exact if_neg (mt open_objects.mpr shut)

/-- Store a byte in a memory, open or not. -/
def store (lcd : Lcd) : PictureMemory → UInt16 → UInt8 → Lcd
  | video => lcd.writeVram
  | objects => lcd.writeOam

section
variable {stored : UInt16} (value : UInt8)

theorem readVram_writeVram (lcd : Lcd) (covers : video.Covers address)
    (covers' : video.Covers stored) : (lcd.writeVram stored value).readVram address =
      if stored = address then value else lcd.readVram address := by
  have same : stored.toNat % 0x2000 = address.toNat % 0x2000 ↔ stored = address := by
    simp only [Covers, UInt16.le_iff_toNat_le, UInt16.reduceToNat] at covers covers'
    rw [← UInt16.toNat_inj]
    omega
  unfold Lcd.writeVram Lcd.readVram
  simp only [Ram.read_write, same]

theorem readOam_writeOam (lcd : Lcd) (covers : objects.Covers address)
    (covers' : objects.Covers stored) : (lcd.writeOam stored value).readOam address =
      if stored = address then value else lcd.readOam address := by
  simp only [Covers, UInt16.le_iff_toNat_le, UInt16.reduceToNat] at covers covers'
  have same : address.toNat % 256 = stored.toNat % 256 ↔ stored = address := by
    rw [← UInt16.toNat_inj]
    omega
  show (lcd.oam.write stored.toNat value).read address.toNat = if _ then _ else lcd.oam.read address.toNat
  rw [← Oam.read_mod, ← Oam.write_mod, Oam.read_write _ _ (by omega) (by omega), Oam.read_mod]
  exact if_congr same rfl rfl

/-- The two memories after a store in one of them. -/
theorem byte_store {other : PictureMemory} (covers : memory.Covers address)
    (covers' : other.Covers stored) :
    memory.byte { map with lcd := other.store map.lcd stored value } address =
      if stored = address then value else memory.byte map address := by
  by_cases same : memory = other
  · subst same
    cases memory
    · exact readVram_writeVram value map.lcd covers covers'
    · exact readOam_writeOam value map.lcd covers covers'
  · have apart : stored ≠ address := by
      rintro rfl
      exact same (eq_of_covers covers covers')
    rw [if_neg apart]
    cases memory <;> cases other <;> first | rfl | exact absurd rfl same

end

/-- A store in an open memory. -/
theorem write_of_open (covers : memory.Covers address) (accessible : memory.Open map) (value : UInt8) :
    map.write address value = { map with lcd := memory.store map.lcd address value } := by
  have region := covers_iff.mp covers
  unfold MemoryMap.write
  rw [region]
  cases memory
  · exact if_pos (open_video.mp accessible)
  · exact if_pos (open_objects.mp accessible)

/-- What is stored in an open memory is in it. -/
theorem byte_write_of_open (covers : memory.Covers address) (accessible : memory.Open map)
    (value : UInt8) : memory.byte (map.write address value) address = value := by
  rw [write_of_open covers accessible, byte_store value covers covers, if_pos rfl]

/-- Only a store at the address itself changes the byte there, and only while the memory is open. -/
theorem eq_of_byte_write (covers : memory.Covers address) {stored : UInt16} {value : UInt8}
    (changed : memory.byte (map.write stored value) address ≠ memory.byte map address) :
    stored = address ∧ memory.Open map := by
  have open_or (other : PictureMemory) (covers' : other.Covers stored) (accessible : other.Open map)
      (after : (map.write stored value).lcd = other.store map.lcd stored value) :
      stored = address ∧ memory.Open map := by
    have same : memory.byte (map.write stored value) address =
        memory.byte { map with lcd := other.store map.lcd stored value } address :=
      byte_congr (congrArg Lcd.vram after) (congrArg Lcd.oam after)
    rw [same, byte_store value covers covers'] at changed
    by_cases equal : stored = address
    · subst equal
      exact ⟨rfl, eq_of_covers covers covers' ▸ accessible⟩
    · rw [if_neg equal] at changed
      exact absurd rfl changed
  cases map.lcdStore stored value with
  | none after =>
    exact absurd (byte_congr (congrArg Lcd.vram after) (congrArg Lcd.oam after)) changed
  | video region accessible after =>
    exact open_or video (covers_iff.mpr region) (open_video.mpr accessible) after
  | objects region accessible after =>
    exact open_or objects (covers_iff.mpr region) (open_objects.mpr accessible) after
  | register _ after =>
    obtain ⟨vram, oam⟩ := map.lcd.memory_write stored value
    exact absurd (byte_congr (after ▸ vram) (after ▸ oam)) changed

/-! ## One M-cycle -/

/-- The LCD never stores in the memories that it draws from, however long it runs. -/
theorem byte_advance (cycles : Nat) :
    memory.byte { map with lcd := (map.lcd.advance cycles).1 } address = memory.byte map address := by
  obtain ⟨vram, oam⟩ := map.lcd.advance_induct (motive := fun _ passed =>
      passed.1.vram = map.lcd.vram ∧ passed.1.oam = map.lcd.oam) ⟨rfl, rfl⟩
    (fun _ passed more _ ih => by
      obtain ⟨vram, oam⟩ := passed.1.memory_slice more
      exact ⟨vram.trans ih.1, oam.trans ih.2⟩) cycles
  exact byte_congr vram oam

theorem vram_tick (map : MemoryMap) : map.tick.lcd.vram = map.lcd.vram := by
  obtain ⟨oam, after⟩ := map.ticked.lcd
  rw [after]
  exact (map.lcd.memory_slice 4).1

/-- Object memory after an M-cycle in which a byte moves. -/
theorem objects_tick (course : map.dma.Course) (covers : objects.Covers address) {index : Nat}
    (due : map.dma.tick.2 = some index) :
    objects.byte map.tick address =
      if address.toNat - 0xFE00 = index then map.held (map.dma.source + index)
      else objects.byte map address := by
  obtain ⟨inside, low⟩ := course.moves due
  simp only [Covers, UInt16.le_iff_toNat_le, UInt16.reduceToNat] at covers
  have number : address.toNat % 256 = address.toNat - 0xFE00 := by omega
  show map.tick.lcd.oam.read address.toNat = if _ then _ else map.lcd.oam.read address.toNat
  rw [MemoryMap.oam_tick_of_some due inside low, ← Oam.read_mod, ← Oam.read_mod map.lcd.oam, number,
    Oam.read_write _ _ inside (by omega)]

/-- An M-cycle brings the byte that moves. -/
theorem byte_tick_of_moves (course : map.dma.Course) (covers : memory.Covers address)
    (moves : memory.Moves map address) :
    memory.byte map.tick address = map.held (map.dma.source + (address.toNat - 0xFE00)) := by
  obtain ⟨rfl, due⟩ := moves
  rw [objects_tick course covers due, if_pos rfl]

/-- It changes no other byte. -/
theorem moves_of_byte_tick (course : map.dma.Course) (covers : memory.Covers address)
    (changed : memory.byte map.tick address ≠ memory.byte map address) :
    memory.Moves map address := by
  cases memory with
  | video => exact absurd (congrArg (Ram.read · address.toNat) (vram_tick map)) changed
  | objects =>
    cases due : map.dma.tick.2 with
    | none => exact absurd (byte_congr (vram_tick map) (MemoryMap.oam_tick_of_none due)) changed
    | some index =>
      rw [objects_tick course covers due] at changed
      by_cases here : address.toNat - 0xFE00 = index
      · exact ⟨rfl, here ▸ due⟩
      · rw [if_neg here] at changed
        exact absurd rfl changed

/-! ## Any run -/

/-- **A byte that is changed by an operation was stored or moved by it.** -/
theorem changer_of_changed (course : map.dma.Course) (covers : memory.Covers address)
    {operation : MemoryMap.Operation} (on : operation ≠ .reset)
    (changed : memory.byte (map.perform operation) address ≠ memory.byte map address) :
    Changer memory map address operation := by
  cases operation with
  | call made =>
    cases made with
    | write stored value =>
      obtain ⟨rfl, accessible⟩ := eq_of_byte_write covers changed
      exact .store value accessible
    | tick => exact .move (moves_of_byte_tick course covers changed)
    | poll | read | acknowledge | resetDivider => exact absurd (byte_congr rfl rfl) changed
  | reset => exact absurd rfl on
  | insert | changeCart | mapBoot | hold | takeSerial | takeFrame =>
    exact absurd (byte_congr rfl rfl) changed

/-- **A byte that is changed in a run was stored or moved by one of the operations**, with the memory map
as the operations before it had left it. -/
theorem changer_of_performs (h : MemoryMap.Reachable map) (covers : memory.Covers address)
    {made : List MemoryMap.Operation} (on : .reset ∉ made)
    (changed : memory.byte (map.performs made) address ≠ memory.byte map address) :
    ∃ earlier operation later, made = earlier ++ operation :: later ∧
      Changer memory (map.performs earlier) address operation := by
  induction made generalizing map with
  | nil => exact absurd rfl changed
  | cons first more ih =>
    by_cases here : memory.byte (map.perform first) address = memory.byte map address
    · rw [← here] at changed
      obtain ⟨earlier, operation, later, split, changer⟩ :=
        ih (h.perform first) (fun member => on (List.mem_cons_of_mem first member)) changed
      exact ⟨first :: earlier, operation, later, congrArg (first :: ·) split, changer⟩
    · have alive : first ≠ .reset := fun off => on (off ▸ List.mem_cons_self)
      exact ⟨[], first, more, rfl, changer_of_changed h.course covers alive here⟩

/-- **How a memory is kept**, when the memory map is `map`. -/
structure Guarded (memory : PictureMemory) (map : MemoryMap) : Prop where
  /-- While it is open, its addresses read what is in it. -/
  shown : ∀ address, memory.Covers address → memory.Open map →
    map.read address = memory.byte map address
  /-- While it is closed, they read 0xFF. -/
  hidden : ∀ address, memory.Covers address → ¬ memory.Open map → map.read address = 0xFF
  /-- While it is open, what is stored is in it. -/
  stored : ∀ address value, memory.Covers address → memory.Open map →
    memory.byte (map.write address value) address = value
  /-- Whatever is done, as long as the power stays on, a byte is changed only by storing it while the
  memory is open, and by the M-cycle in which a copy moves it. -/
  changed : ∀ operation, operation ≠ .reset → ∀ address, memory.Covers address →
    memory.byte (map.perform operation) address ≠ memory.byte map address →
      Changer memory map address operation
  /-- That M-cycle does move it. -/
  moved : ∀ address, memory.Covers address → memory.Moves map address →
    memory.byte map.tick address = map.held (map.dma.source + (address.toNat - 0xFE00))
  /-- The LCD itself changes no byte, however long it runs. -/
  drawn : ∀ cycles address,
    memory.byte { map with lcd := (map.lcd.advance cycles).1 } address = memory.byte map address

theorem guarded_of_reachable (h : MemoryMap.Reachable map) (memory : PictureMemory) :
    Guarded memory map where
  shown _ := read_of_open
  hidden _ := read_of_closed
  stored _ value covers accessible := byte_write_of_open covers accessible value
  changed _ on _ covers := changer_of_changed h.course covers on
  moved _ := byte_tick_of_moves h.course
  drawn cycles _ := byte_advance cycles

end PictureMemory
end DotMatrix
