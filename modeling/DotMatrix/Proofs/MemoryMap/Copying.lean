import DotMatrix.Proofs.MemoryMap.Calls
import Mathlib.Data.List.Induction

/-! # Copies to object memory

A store starts a copy, and what the processor does meanwhile does not matter: it may read and store
anywhere, also where the copy reads from, as long as it starts no other copy.  `Dma.Stage` says where the
engine is after so many M-cycles, from any state before the store (`stage_calls`), a copy under way
included.  The byte that moves in an M-cycle is the one that its address holds at that time (`held`), and
since object memory is closed until the last byte has moved, all of them are in place then.
-/
namespace DotMatrix

namespace Oam

theorem read_write (oam : Oam) {stored index : Nat} (value : UInt8) (hs : stored < 160)
    (hi : index < 160) :
    (oam.write stored value).read index = if index = stored then value else oam.read index := by
  have cell : stored % 256 = stored := Nat.mod_eq_of_lt (by omega)
  have cell' : index % 256 = index := Nat.mod_eq_of_lt (by omega)
  have same : stored = index ↔ index = stored := eq_comm
  simp only [read, write, cell, cell', dif_pos hs, dif_pos hi]
  show (oam.bytes.set stored value hs)[index] = if index = stored then value else oam.bytes[index]
  simp only [Vector.getElem_set, same]

theorem read_mod (oam : Oam) (address : Nat) : oam.read (address % 256) = oam.read address := by
  simp only [read, Nat.mod_mod]

theorem write_mod (oam : Oam) (address : Nat) (value : UInt8) :
    oam.write (address % 256) value = oam.write address value := by
  simp only [write, Nat.mod_mod]

end Oam

/-! ## The engine -/

namespace Dma

/-- Where a copy from `base` on is when so many M-cycles have passed since the store. -/
inductive Stage (base : Nat) : Nat → Dma → Prop where
  /-- Nothing moves yet; object memory is closed if an earlier copy was under way. -/
  | waiting {ticks : Nat} (early : ticks < 2) (active : Bool) :
    Stage base ticks ⟨base, 2 - ticks, 0, active⟩
  | moving {index : Nat} (more : index < 160) : Stage base (2 + index) ⟨base, 0, index, true⟩
  | ended {ticks : Nat} (late : 162 ≤ ticks) : Stage base ticks ⟨base, 0, 160, false⟩

variable {base ticks : Nat} {dma : Dma}

/-- One M-cycle leads to the next stage. -/
theorem Stage.tick (h : Stage base ticks dma) : Stage base (ticks + 1) dma.tick.1 := by
  cases h with
  | waiting early active =>
    obtain rfl | rfl : ticks = 0 ∨ ticks = 1 := by omega
    · exact .waiting (by decide) (active || false)
    · have begun : Stage base (2 + 0) ⟨base, 0, 0, true⟩ := .moving (by decide)
      rw [← Bool.or_true active] at begun
      exact begun
  | @moving index more =>
    by_cases last : index = 159
    · subst last
      exact .ended (by decide)
    · have goes : Stage base (2 + (index + 1)) ⟨base, 0, index + 1, true⟩ := .moving (by omega)
      have unfinished : (index + 1 != length) = true := by simpa [length] using last
      rw [← unfinished] at goes
      exact goes
  | ended late => exact .ended (Nat.le_succ_of_le late)

/-- The byte that moves next. -/
theorem Stage.due (h : Stage base ticks dma) :
    dma.tick.2 = if 2 ≤ ticks ∧ ticks < 162 then some (ticks - 2) else none := by
  cases h with
  | waiting early active =>
    obtain rfl | rfl : ticks = 0 ∨ ticks = 1 := by omega
    · rfl
    · rfl
  | @moving index more =>
    rw [if_pos (by omega), Nat.add_sub_cancel_left]
    rfl
  | ended late =>
    rw [if_neg (by omega)]
    rfl

/-- From the second M-cycle to the 162nd object memory is closed. -/
theorem Stage.active (h : Stage base ticks dma) (low : 2 ≤ ticks) (high : ticks < 162) :
    dma.active = true ∧ dma.source = base := by
  cases h with
  | waiting early => omega
  | moving => exact ⟨rfl, rfl⟩
  | ended late => omega

/-- After 162 M-cycles nothing is left to do. -/
theorem Stage.idle (h : Stage base ticks dma) (late : 162 ≤ ticks) : dma.busy = false := by
  cases h with
  | waiting early => omega
  | moving more => omega
  | ended => rfl

end Dma

/-! ## The LCD lets the copy pass -/

namespace Lcd

theorem memory_slice (lcd : Lcd) (cycles : Nat) :
    (lcd.slice cycles).1.vram = lcd.vram ∧ (lcd.slice cycles).1.oam = lcd.oam := by
  by_cases on : lcd.control.enabled = true
  · obtain ⟨coincidence, level, sliced⟩ := exists_slice_eq on cycles
    rw [sliced]
    cases (lcd.later cycles).turning with
    | stays _ turned | entry _ _ _ turned | next _ _ _ turned | top _ _ _ turned
      | between _ _ _ turned | searched _ _ turned | drawn _ _ turned =>
      rw [turned]
      exact ⟨rfl, rfl⟩
  · rw [slice_of_off (Bool.eq_false_iff.mpr on)]
    exact ⟨rfl, rfl⟩

/-- No register is in video memory or object memory. -/
theorem memory_write (lcd : Lcd) (address : UInt16) (value : UInt8) :
    (lcd.write address value).vram = lcd.vram ∧ (lcd.write address value).oam = lcd.oam := by
  rcases lcd.write_cases address value with switched | alike
  · rw [switched]
    cases lcd.switching value with
    | off _ _ switched | same _ switched =>
      rw [switched]
      exact ⟨rfl, rfl⟩
    | on _ _ switched =>
      rw [switched]
      exact ⟨(alike_compareLine _).vram, (alike_compareLine _).oam⟩
  · exact ⟨alike.vram, alike.oam⟩

end Lcd

/-! ## One M-cycle -/

namespace MemoryMap

/-- The byte that an address holds, also where the LCD keeps the processor out of video memory. -/
def held (map : MemoryMap) (address : Nat) : UInt8 :=
  if 0x8000 ≤ address ∧ address < 0xA000 then map.lcd.readVram (UInt16.ofNat address)
  else map.read (UInt16.ofNat address)

/-- Up to the end of work memory there are four regions. -/
theorem region_of_low {address : UInt16} (low : address.toNat < 0xE000) :
    (Region.of address = .video ∧ 0x8000 ≤ address.toNat ∧ address.toNat < 0xA000) ∨
      ((Region.of address = .program ∨ Region.of address = .save ∨ Region.of address = .work) ∧
        ¬ (0x8000 ≤ address.toNat ∧ address.toNat < 0xA000)) := by
  have located := Region.located_of address
  generalize Region.of address = region at located ⊢
  cases located with
  | video low upper => exact .inl ⟨rfl, low, upper⟩
  | program upper => exact .inr ⟨.inl rfl, by omega⟩
  | save low => exact .inr ⟨.inr (.inl rfl), by omega⟩
  | work low => exact .inr ⟨.inr (.inr rfl), by omega⟩
  | _ => omega

/-- Up to the end of work memory the engine sees what is held, and the devices that run beside it do not
change that. -/
theorem readForCopy_tickDevices (map : MemoryMap) {address : Nat} (low : address < 0xE000) :
    map.tickDevices.readForCopy (UInt16.ofNat address) = map.held address := by
  have number : (UInt16.ofNat address).toNat = address := by
    rw [UInt16.toNat_ofNat']
    omega
  have vram : map.tickDevices.lcd.vram = map.lcd.vram := by
    show (map.lcd.advance 4).1.vram = map.lcd.vram
    rw [Lcd.advance_four]
    exact (map.lcd.memory_slice 4).1
  have regions := region_of_low (number.symm ▸ low)
  rw [number] at regions
  unfold held readForCopy
  rcases regions with ⟨video, window⟩ | ⟨region, outside⟩
  · rw [if_pos window]
    simp only [video]
    show map.tickDevices.lcd.vram.read _ = map.lcd.vram.read _
    rw [vram]
  · rw [if_neg outside]
    rcases region with region | region | region <;> simp only [read, region] <;> rfl

theorem oam_tickDevices (map : MemoryMap) : map.tickDevices.lcd.oam = map.lcd.oam := by
  show (map.lcd.advance 4).1.oam = map.lcd.oam
  rw [Lcd.advance_four]
  exact (map.lcd.memory_slice 4).2

/-- In an M-cycle in which no byte is due, object memory stays as it is. -/
theorem oam_tick_of_none {map : MemoryMap} (h : map.dma.tick.2 = none) :
    map.tick.lcd.oam = map.lcd.oam := by
  unfold tick tickDma
  split
  · rename_i dma index moved
    have due : map.dma.tick = (dma, some index) := moved
    rw [due] at h
    cases h
  · exact map.oam_tickDevices

/-- Otherwise the byte that is due is stored, and no other. -/
theorem oam_tick_of_some {map : MemoryMap} {index : Nat} (h : map.dma.tick.2 = some index)
    (inside : index < 160) (low : map.dma.source + index < 0xE000) :
    map.tick.lcd.oam = map.lcd.oam.write index (map.held (map.dma.source + index)) := by
  have number : (UInt16.ofNat index).toNat = index := by
    rw [UInt16.toNat_ofNat']
    omega
  unfold tick tickDma
  split
  · rename_i dma other moved
    have due : map.dma.tick = (dma, some other) := moved
    obtain rfl : other = index := by
      rw [due] at h
      exact Option.some.inj h
    show map.tickDevices.lcd.oam.write (UInt16.ofNat other).toNat
      (map.tickDevices.readForCopy (UInt16.ofNat (map.dma.source + other))) = _
    rw [map.oam_tickDevices, map.readForCopy_tickDevices low, number]
  · rename_i dma moved
    have due : map.dma.tick = (dma, none) := moved
    rw [due] at h
    cases h

/-! ## A closed object memory -/

section
variable {map : MemoryMap} (active : map.dma.active = true)
include active

/-- While a copy is under way the processor does not reach object memory. -/
theorem closed_of_active {address : UInt16} (low : 0xFE00 ≤ address) (high : address ≤ 0xFE9F) :
    map.read address = 0xFF ∧ ∀ value, map.write address value = map := by
  simp only [UInt16.le_iff_toNat_le, UInt16.reduceToNat] at low high
  have region := (Region.Located.objects low (Nat.lt_succ_of_le high)).of_eq
  have shut : map.objectsOpen = false := by simp [objectsOpen, active]
  constructor
  · simp [read, region, shut]
  · intro value
    simp [write, region, shut]

/-- Then nothing but the copy changes object memory. -/
theorem oam_call_of_active {made : Call} (time : made ≠ .tick) :
    (map.call made).lcd.oam = map.lcd.oam := by
  cases made with
  | tick => exact absurd rfl time
  | poll | read | acknowledge | resetDivider => rfl
  | write address value =>
    show (map.write address value).lcd.oam = map.lcd.oam
    cases map.lcdStore address value with
    | none stored => rw [stored]
    | video _ _ stored =>
      rw [stored]
      rfl
    | objects _ accessible => simp [objectsOpen, active] at accessible
    | register _ stored =>
      rw [stored]
      exact (map.lcd.memory_write address value).2

end

/-! ## The copy of a page -/

/-- The stage that the store and any calls after it have led to. -/
theorem stage_calls (map : MemoryMap) (page : UInt8) {made : List Call}
    (free : ∀ value, Call.write 0xFF46 value ∉ made) :
    Dma.Stage (Dma.sourcePage page * 0x100) (made.count .tick)
      ((map.write 0xFF46 page).calls made).dma := by
  induction made using List.reverseRecOn with
  | nil => exact .waiting (by decide) map.dma.active
  | append_singleton made last ih =>
    have before := ih fun value member => free value (List.mem_append_left _ member)
    rw [calls_concat, List.count_append]
    by_cases time : last = .tick
    · subst time
      show Dma.Stage _ (_ + 1) (MemoryMap.tick _).dma
      rw [(ticked _).dma]
      exact before.tick
    · have other : ∀ value, last ≠ .write 0xFF46 value := by
        rintro value rfl
        exact free value (List.mem_append_right _ (List.mem_singleton_self _))
      rw [dma_call time other, List.count_singleton, if_neg (by simpa using time)]
      exact before

section
variable {base : Nat} {start : MemoryMap} {made : List Call}

/-- Every byte whose M-cycle is over is what was held when that came. -/
def InPlace (base : Nat) (start : MemoryMap) (made : List Call) : Prop :=
  ∀ i < 160, 2 + i < made.count .tick → ∃ before after, made = before ++ .tick :: after ∧
    before.count .tick = 2 + i ∧
    (start.calls made).lcd.oam.read i = (start.calls before).held (base + i)

/-- What the next M-cycle does to object memory. -/
theorem read_oam_tick {now : MemoryMap} {i : Nat} (stage : Dma.Stage base (2 + i) now.dma)
    (inside : i < 160) (low : base + i < 0xE000) {j : Nat} (valid : j < 160) :
    now.tick.lcd.oam.read j = if j = i then now.held (base + i) else now.lcd.oam.read j := by
  obtain ⟨-, source⟩ := stage.active (by omega) (by omega)
  have due := stage.due
  rw [if_pos (by omega), Nat.add_sub_cancel_left] at due
  rw [oam_tick_of_some due inside (source ▸ low), Oam.read_write _ _ inside valid, source]

/-- One M-cycle more, and one byte more in place. -/
theorem InPlace.tick (h : InPlace base start made)
    (stage : Dma.Stage base (made.count .tick) (start.calls made).dma)
    (more : made.count .tick < 162) (low : base + 160 ≤ 0xE000) :
    InPlace base start (made ++ [.tick]) := by
  intro i inside past
  rw [List.count_append, List.count_singleton_self] at past
  rw [calls_concat]
  show ∃ before after, _ ∧ _ ∧ (start.calls made).tick.lcd.oam.read i = _
  obtain ⟨k, ticks⟩ : ∃ k, made.count .tick = 2 + k := ⟨made.count .tick - 2, by omega⟩
  rw [ticks] at stage
  rw [read_oam_tick stage (by omega) (by omega) inside]
  by_cases last : i = k
  · subst last
    exact ⟨made, [], rfl, ticks, if_pos rfl⟩
  · obtain ⟨before, after, split, turn, same⟩ := h i inside (by omega)
    refine ⟨before, after ++ [.tick], ?_, turn, ?_⟩
    · rw [split, List.append_assoc, List.cons_append]
    · rw [if_neg last, same]

/-- A call that takes no time disturbs no byte that is in place, while the copy is under way. -/
theorem InPlace.call (h : InPlace base start made)
    (stage : Dma.Stage base (made.count .tick) (start.calls made).dma)
    (more : made.count .tick < 162) {last : Call} (time : last ≠ .tick) :
    InPlace base start (made ++ [last]) := by
  intro i inside past
  rw [List.count_append, List.count_singleton, if_neg (by simpa using time)] at past
  obtain ⟨before, after, split, turn, same⟩ := h i inside past
  refine ⟨before, after ++ [last], ?_, turn, ?_⟩
  · rw [split, List.append_assoc, List.cons_append]
  · rw [calls_concat, oam_call_of_active (stage.active (by omega) more).1 time, same]

end

/-- Every page that is copied lies below the second appearance of work memory. -/
theorem sourcePage_le (page : UInt8) : Dma.sourcePage page * 0x100 + 160 ≤ 0xE000 := by
  have small : ∀ page, Dma.sourcePage page ≤ 0xDF := forall_byte (by decide +kernel)
  have bound := small page
  omega

/-- Up to the last M-cycle of a copy, all bytes that have moved are in place. -/
theorem inPlace_calls (map : MemoryMap) (page : UInt8) {made : List Call}
    (free : ∀ value, Call.write 0xFF46 value ∉ made) (more : made.count .tick < 162) :
    InPlace (Dma.sourcePage page * 0x100) (map.write 0xFF46 page) made := by
  induction made using List.reverseRecOn with
  | nil =>
    intro i _ past
    cases past
  | append_singleton made last ih =>
    have before : ∀ value, Call.write 0xFF46 value ∉ made := fun value member =>
      free value (List.mem_append_left _ member)
    rw [List.count_append] at more
    have place := ih before (by omega)
    have stage := map.stage_calls page before
    by_cases time : last = .tick
    · subst time
      exact place.tick stage (by omega) (sourcePage_le page)
    · exact place.call stage (by omega) time

/-- **A copy of the bytes from `base` on**, as it stands after the calls `made` that followed the store;
the memory map was `start` right after the store. -/
structure Copying (base : Nat) (start : MemoryMap) (made : List Call) : Prop where
  /-- In the first two M-cycles, and after the last byte, object memory stays as it is. -/
  still : made.count .tick < 2 ∨ 162 ≤ made.count .tick →
    (start.calls made).tick.lcd.oam = (start.calls made).lcd.oam
  /-- In between, the next M-cycle stores the byte whose turn it is, as it is held now, and no other. -/
  moves : ∀ i < 160, made.count .tick = 2 + i → ∀ j < 160,
    (start.calls made).tick.lcd.oam.read j =
      if j = i then (start.calls made).held (base + i) else (start.calls made).lcd.oam.read j
  /-- Meanwhile every address of object memory reads 0xFF, and a store there is lost. -/
  closed : 2 ≤ made.count .tick → made.count .tick < 162 →
    ∀ address : UInt16, 0xFE00 ≤ address → address ≤ 0xFE9F →
      (start.calls made).read address = 0xFF ∧
        ∀ value, (start.calls made).write address value = start.calls made
  /-- The 162nd M-cycle ends the copy, and then each byte is the one that moved when its turn came. -/
  complete : made.count .tick = 161 →
    (start.calls made).tick.dma.busy = false ∧
      ∀ i < 160, ∃ before after, made ++ [.tick] = before ++ .tick :: after ∧
        before.count .tick = 2 + i ∧
        (start.calls made).tick.lcd.oam.read i = (start.calls before).held (base + i)

/-- **A copy moves exactly its page.**  In whatever state the memory map is when the page is stored, a
copy under way included, and whatever is called afterwards, in any order, as long as no other copy is
started. -/
theorem copying_of_write (map : MemoryMap) (page : UInt8) {made : List Call}
    (free : ∀ value, Call.write 0xFF46 value ∉ made) :
    Copying ((if page < 0xE0 then page.toNat else page.toNat - 0x20) * 256)
      (map.write 0xFF46 page) made := by
  have stage := map.stage_calls page free
  have low := sourcePage_le page
  exact {
    still := fun outside => by
      refine oam_tick_of_none ?_
      rw [stage.due, if_neg (by omega)]
    moves := fun i inside ticks j valid => by
      rw [ticks] at stage
      exact read_oam_tick stage inside (by omega) valid
    closed := fun begun more address => closed_of_active (stage.active begun more).1
    complete := fun ticks => by
      have last := (map.inPlace_calls page free (by omega)).tick stage (by omega) low
      constructor
      · rw [(ticked _).dma]
        exact stage.tick.idle (by omega)
      · intro i inside
        have past : 2 + i < (made ++ [Call.tick]).count .tick := by
          rw [List.count_append, List.count_singleton_self]
          omega
        obtain ⟨before, after, split, turn, same⟩ := last i inside past
        rw [calls_concat] at same
        exact ⟨before, after, split, turn, same⟩ }

/-- A copy begun again while another one is under way, from a page above work memory, of which a byte is
stored in work memory meanwhile. -/
theorem copying_of_write_again :
    let first := (MemoryMap.afterBoot.write 0xFF46 0x80).calls [.tick, .tick, .tick]
    let made : List Call := [.tick, .write 0xC101 0x2A, .tick, .tick, .read 0xFE00 0xFF]
    first.dma.active = true ∧ (∀ value, Call.write 0xFF46 value ∉ made) ∧
      Copying 0xC100 (first.write 0xFF46 0xE1) made ∧
      ((first.write 0xFF46 0xE1).calls made).tick.lcd.oam.read 1 = 0x2A := by
  intro first made
  have free : ∀ value, Call.write 0xFF46 value ∉ made := by simp [made]
  have copying : Copying 0xC100 (first.write 0xFF46 0xE1) made := copying_of_write first 0xE1 free
  have stored : ((first.write 0xFF46 0xE1).calls made).held 0xC101 = 0x2A := by
    show (first.work.write 0xC101 0x2A).read 0xC101 = 0x2A
    rw [Ram.read_write, if_pos rfl]
  refine ⟨by decide, free, copying, ?_⟩
  rw [copying.moves 1 (by decide) (by decide) 1 (by decide), if_pos rfl]
  exact stored

end MemoryMap
end DotMatrix
