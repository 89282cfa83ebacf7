import DotMatrix.Bus.Flat
import DotMatrix.Proofs.Cpu.Lockstep
import DotMatrix.Proofs.MemoryMap.PlainMemory

/-! # Buses that cannot be told apart

A processor knows its bus by the answers only.  Two buses that answer alike at the addresses that are
used (`Agreement`) therefore lead to the same step: the same calls, the same outcome, and buses that
still answer alike.  The relation is between states of two quite different buses, and a step is taken
apart call by call.

The two buses of interest are the memory map and plain memory.  They agree as long as a program stays
in work memory and high memory, no button is down and no interrupt is enabled (`Mirrors`); timer, serial
port, LCD, cartridge and copies to object memory may do whatever they do.
-/
namespace DotMatrix

/-- The address of an access. -/
def Call.address? : Call → Option UInt16
  | .read address _ | .write address _ => some address
  | _ => none

/-- These calls access memory at such addresses only. -/
def Within (fair : UInt16 → Prop) (calls : List Call) : Prop :=
  ∀ call ∈ calls, ∀ address ∈ call.address?, fair address

instance (fair : UInt16 → Prop) [DecidablePred fair] (call : Call) :
    Decidable (∀ address ∈ call.address?, fair address) :=
  Option.decidableForallMem call.address?

instance (fair : UInt16 → Prop) [DecidablePred fair] (calls : List Call) :
    Decidable (Within fair calls) :=
  inferInstanceAs (Decidable (∀ call ∈ calls, ∀ address ∈ call.address?, fair address))

namespace Within
variable {fair : UInt16 → Prop} {call : Call} {calls : List Call}

theorem head (h : Within fair (call :: calls)) {address : UInt16}
    (access : address ∈ call.address?) : fair address :=
  h call (List.mem_cons_self ..) address access

theorem tail (h : Within fair (call :: calls)) : Within fair calls :=
  fun other member => h other (List.mem_cons_of_mem _ member)

end Within

/-! ## Agreement in general -/

/-- Two buses that answer alike while only fair addresses are used: `agree` is kept by every call, and
whatever is asked has the same answer. -/
structure Agreement {β γ : Type} [Bus β] [Bus γ] (agree : β → γ → Prop) (fair : UInt16 → Prop) :
    Prop where
  read : ∀ {left right}, agree left right → ∀ {address}, fair address →
    (Bus.read left address).1 = (Bus.read right address).1 ∧
      agree (Bus.read left address).2 (Bus.read right address).2
  write : ∀ {left right}, agree left right → ∀ {address}, fair address → ∀ value,
    agree (Bus.write left address value) (Bus.write right address value)
  tick : ∀ {left right}, agree left right → agree (Bus.tick left) (Bus.tick right)
  pending : ∀ {left right}, agree left right → Bus.pending left = Bus.pending right
  acknowledge : ∀ {left right}, agree left right → ∀ source,
    agree (Bus.acknowledge left source) (Bus.acknowledge right source)
  poll : ∀ {left right}, agree left right → agree (Bus.poll left) (Bus.poll right)
  buttonHeld : ∀ {left right}, agree left right → Bus.buttonHeld left = Bus.buttonHeld right
  resetDivider : ∀ {left right}, agree left right →
    agree (Bus.resetDivider left) (Bus.resetDivider right)

/-- The same dialogue on both sides: the same calls and the same result, and buses that agree. -/
structure SameTalk {α β γ : Type} (agree : β → γ → Prop) (left : List Call × α × β)
    (right : List Call × α × γ) : Prop where
  calls : left.1 = right.1
  result : left.2.1 = right.2.1
  buses : agree left.2.2 right.2.2

namespace Agreement
variable {α β γ : Type} [Bus β] [Bus γ] {agree : β → γ → Prop} {fair : UInt16 → Prop}

/-- Agreement has no direction. -/
theorem symm (h : Agreement agree fair) : Agreement (fun right left => agree left right) fair where
  read related _ allowed := ⟨(h.read related allowed).1.symm, (h.read related allowed).2⟩
  write related _ allowed := h.write related allowed
  tick := h.tick
  pending related := (h.pending related).symm
  acknowledge := h.acknowledge
  poll := h.poll
  buttonHeld related := (h.buttonHeld related).symm
  resetDivider := h.resetDivider

/-- **Buses that agree hold the same dialogue**, if it keeps to fair addresses on the left. -/
theorem record (h : Agreement agree fair) (dialogue : Dialogue α) {left : β} {right : γ}
    (related : agree left right) (within : Within fair (dialogue.record left).1) :
    SameTalk agree (dialogue.record left) (dialogue.record right) := by
  induction dialogue generalizing left right with
  | done result => exact ⟨rfl, rfl, related⟩
  | poll rest ih =>
    obtain ⟨calls, result, buses⟩ := ih (h.poll related) within.tail
    exact ⟨congrArg (Call.poll :: ·) calls, result, buses⟩
  | read address rest ih =>
    obtain ⟨value, still⟩ := h.read related (within.head rfl)
    -- The answer is the same, so both sides go on alike.
    have talk : SameTalk agree ((rest (Bus.read left address).1).record (Bus.read left address).2)
        ((rest (Bus.read left address).1).record (Bus.read right address).2) :=
      ih _ still within.tail
    rw [value] at talk
    refine ⟨?_, ?_, ?_⟩ <;> simp only [Dialogue.record, value]
    · exact congrArg (_ :: ·) talk.calls
    · exact talk.result
    · exact talk.buses
  | write address value rest ih =>
    obtain ⟨calls, result, buses⟩ := ih (h.write related (within.head rfl) value) within.tail
    exact ⟨congrArg (Call.write address value :: ·) calls, result, buses⟩
  | tick rest ih =>
    obtain ⟨calls, result, buses⟩ := ih (h.tick related) within.tail
    exact ⟨congrArg (Call.tick :: ·) calls, result, buses⟩
  | pending rest ih =>
    have talk := ih _ related within
    show SameTalk agree ((rest (Bus.pending left)).record left)
      ((rest (Bus.pending right)).record right)
    rwa [← h.pending related]
  | acknowledge source rest ih =>
    obtain ⟨calls, result, buses⟩ := ih (h.acknowledge related source) within.tail
    exact ⟨congrArg (Call.acknowledge source :: ·) calls, result, buses⟩
  | buttonHeld rest ih =>
    have talk := ih _ related within
    show SameTalk agree ((rest (Bus.buttonHeld left)).record left)
      ((rest (Bus.buttonHeld right)).record right)
    rwa [← h.buttonHeld related]
  | resetDivider rest ih =>
    obtain ⟨calls, result, buses⟩ := ih (h.resetDivider related) within.tail
    exact ⟨congrArg (Call.resetDivider :: ·) calls, result, buses⟩

/-- It is enough that the dialogue keeps to fair addresses on one side. -/
theorem record_of_or (h : Agreement agree fair) (dialogue : Dialogue α) {left : β} {right : γ}
    (related : agree left right)
    (within : Within fair (dialogue.record left).1 ∨ Within fair (dialogue.record right).1) :
    SameTalk agree (dialogue.record left) (dialogue.record right) := by
  rcases within with onLeft | onRight
  · exact h.record dialogue related onLeft
  · obtain ⟨calls, result, buses⟩ := h.symm.record dialogue related onRight
    exact ⟨calls.symm, result.symm, buses⟩

end Agreement

/-! ## Work memory and high memory -/

/-- The addresses of work memory, without those at which it shows again, and of high memory. -/
def InRam (address : UInt16) : Prop :=
  (0xC000 ≤ address ∧ address ≤ 0xDFFF) ∨ (0xFF80 ≤ address ∧ address ≤ 0xFFFE)

instance : DecidablePred InRam := fun _ => inferInstanceAs (Decidable (_ ∨ _))

/-- The region of such an address, and the address as a number. -/
theorem InRam.region {address : UInt16} (h : InRam address) :
    (Region.of address = .work ∧ 0xC000 ≤ address.toNat ∧ address.toNat ≤ 0xDFFF) ∨
      (Region.of address = .high ∧ 0xFF80 ≤ address.toNat ∧ address.toNat ≤ 0xFFFE) := by
  unfold InRam at h
  simp only [UInt16.le_iff_toNat_le, UInt16.reduceToNat] at h
  rcases h with ⟨low, high⟩ | ⟨low, high⟩
  · exact .inl ⟨(Region.Located.work low (by omega)).of_eq, low, high⟩
  · exact .inr ⟨(Region.Located.high low (by omega)).of_eq, low, high⟩

/-- These addresses are plain. -/
theorem InRam.plain {address : UInt16} (h : InRam address) : MemoryMap.Plain address := by
  rcases h with ⟨low, high⟩ | ⟨low, high⟩
  · exact .inl ⟨low, UInt16.le_trans high (by decide)⟩
  · exact .inr (.inl ⟨low, high⟩)

/-- No two of them share a byte. -/
theorem InRam.sameByte_iff {first second : UInt16} (h : InRam first) (h' : InRam second) :
    MemoryMap.SameByte first second ↔ first = second := by
  constructor
  · rintro (same | ⟨⟨-, upper⟩, ⟨-, upper'⟩, cell⟩)
    · exact same
    · simp only [UInt16.le_iff_toNat_le, UInt16.reduceToNat] at upper upper'
      rcases h.region with ⟨-, low, high⟩ | ⟨-, low, -⟩
      · rcases h'.region with ⟨-, low', high'⟩ | ⟨-, low', -⟩
        · exact UInt16.toNat_inj.mp (by omega)
        · omega
      · omega
  · exact .inl

namespace MemoryMap

/-- Reading there sees work memory or high memory, and nothing else of the machine. -/
theorem read_congr {map other : MemoryMap} {address : UInt16} (h : InRam address)
    (work : other.work = map.work) (high : other.high = map.high) :
    other.read address = map.read address := by
  rcases h.region with ⟨region, -⟩ | ⟨region, -⟩
  · simp only [read, region, work]
  · simp only [read, region, high]

/-- **Reading after a store**, both in these memories. -/
theorem read_write {map : MemoryMap} {stored address : UInt16} (value : UInt8) (h : InRam stored)
    (h' : InRam address) :
    (map.write stored value).read address = if stored = address then value else map.read address := by
  obtain ⟨block, answers⟩ := h'.plain.answers
  rw [read_write_of_block map answers]
  exact if_congr ((slot_eq_iff h.plain address).trans (h.sameByte_iff h')) rfl rfl

/-- Such a store reaches no device. -/
theorem devices_write {map : MemoryMap} {stored : UInt16} (value : UInt8) (h : InRam stored) :
    (map.write stored value).ints = map.ints ∧ (map.write stored value).joypad = map.joypad ∧
      (map.write stored value).buttons = map.buttons := by
  rcases h.region with ⟨region, -⟩ | ⟨region, -⟩ <;> simp only [write, region, and_self]

/-- What an M-cycle leaves alone. -/
structure Undisturbed (map other : MemoryMap) : Prop where
  work : other.work = map.work
  high : other.high = map.high
  enabled : other.ints.enabled = map.ints.enabled
  joypad : other.joypad = map.joypad
  buttons : other.buttons = map.buttons

theorem enabled_requestAll (ints : Interrupts) (sources : List Interrupt) :
    (ints.requestAll sources).enabled = ints.enabled := by
  induction sources generalizing ints with
  | nil => rfl
  | cons source sources ih => exact ih (ints.request source)

/-- **No device touches work memory, high memory or the enabled interrupts.** -/
theorem undisturbed_tick (map : MemoryMap) : Undisturbed map map.tick := by
  have devices : Undisturbed map map.tickDevices := by
    refine ⟨rfl, rfl, ?_, rfl, rfl⟩
    show (((map.ints.requestAll _).requestAll _).requestAll _).enabled = map.ints.enabled
    rw [enabled_requestAll, enabled_requestAll, enabled_requestAll]
  unfold tick tickDma
  split
  · exact ⟨devices.work, devices.high, devices.enabled, devices.joypad, devices.buttons⟩
  · exact ⟨devices.work, devices.high, devices.enabled, devices.joypad, devices.buttons⟩

end MemoryMap

/-- Reading plain memory after a store. -/
theorem Flat.peek_poke (flat : Flat) (stored address : UInt16) (value : UInt8) :
    (flat.poke stored value).peek address = if stored = address then value else flat.peek address := by
  have same : stored = address ↔ stored.toNat = address.toNat := UInt16.toNat_inj.symm
  have low := stored.toNat_lt
  have low' := address.toNat_lt
  simp only [peek, poke, Ram.read_write, same]
  congr 1
  exact propext ⟨fun cell => by omega, fun cell => by rw [cell]⟩

/-! ## Plain memory as a mirror -/

/-- Plain memory that holds what the memory map holds in work memory and high memory, while nothing
can interrupt on either side and nobody presses a button. -/
structure Mirrors (map : MemoryMap) (flat : Flat) : Prop where
  released : map.buttons = {}
  masked : map.ints.enabled = 0
  flatMasked : flat.peek 0xFFFF = 0
  unheld : flat.held = false
  same : ∀ address, InRam address → map.read address = flat.peek address

/-- The same after the buttons have been sampled. -/
structure Settled (map : MemoryMap) (flat : Flat) : Prop extends Mirrors map flat where
  unpressed : map.joypad.anyPressed = false

/-- What a memory map has to keep to stay mirrored. -/
theorem Settled.undisturbed {map other : MemoryMap} {flat : Flat} (h : Settled map flat)
    (kept : MemoryMap.Undisturbed map other) : Settled other flat where
  released := kept.buttons.trans h.released
  masked := kept.enabled.trans h.masked
  flatMasked := h.flatMasked
  unheld := h.unheld
  same address inRam := (MemoryMap.read_congr inRam kept.work kept.high).trans (h.same address inRam)
  unpressed := by
    rw [kept.joypad]
    exact h.unpressed

/-- Sampling finds no button. -/
theorem Mirrors.poll {map : MemoryMap} {flat : Flat} (h : Mirrors map flat) :
    Settled map.poll flat where
  released := h.released
  masked := (MemoryMap.enabled_requestAll _ _).trans h.masked
  flatMasked := h.flatMasked
  unheld := h.unheld
  same address inRam := by
    have seen : map.poll.read address = map.read address := MemoryMap.read_congr inRam rfl rfl
    exact seen.trans (h.same address inRam)
  unpressed := by
    show (map.buttons.bits != 0) = false
    rw [h.released]
    rfl

theorem Settled.write {map : MemoryMap} {flat : Flat} (h : Settled map flat) {stored : UInt16}
    (inRam : InRam stored) (value : UInt8) :
    Settled (map.write stored value) (flat.poke stored value) := by
  obtain ⟨ints, joypad, buttons⟩ := MemoryMap.devices_write value inRam
  exact {
    released := buttons.trans h.released
    masked := (congrArg Interrupts.enabled ints).trans h.masked
    flatMasked := by
      have other : stored ≠ 0xFFFF := by
        rintro rfl
        exact absurd inRam (by decide)
      rw [Flat.peek_poke, if_neg other]
      exact h.flatMasked
    unheld := h.unheld
    same := by
      intro address inRam'
      rw [MemoryMap.read_write value inRam inRam', Flat.peek_poke, h.same address inRam']
    unpressed := by
      rw [joypad]
      exact h.unpressed }

/-- Taking a request withdraws it on both sides, where the program does not look. -/
theorem Settled.acknowledge {map : MemoryMap} {flat : Flat} (h : Settled map flat)
    (source : Interrupt) :
    Settled (Bus.acknowledge map source) (Bus.acknowledge flat source) where
  released := h.released
  masked := h.masked
  flatMasked := by
    show (flat.poke 0xFF0F _).peek 0xFFFF = 0
    rw [Flat.peek_poke, if_neg (by decide)]
    exact h.flatMasked
  unheld := h.unheld
  same address inRam := by
    have other : (0xFF0F : UInt16) ≠ address := by
      rintro rfl
      exact absurd inRam (by decide)
    have seen : (Bus.acknowledge map source).read address = map.read address :=
      MemoryMap.read_congr inRam rfl rfl
    show _ = (flat.poke 0xFF0F _).peek address
    rw [Flat.peek_poke, if_neg other]
    exact seen.trans (h.same address inRam)
  unpressed := h.unpressed

/-- **The memory map and its mirror agree** while a program stays in the two memories. -/
theorem agreement_settled : Agreement Settled InRam where
  read h address inRam := ⟨h.same address inRam, h⟩
  write h _ inRam value := h.write inRam value
  tick {map flat} h :=
    have ticked := h.undisturbed map.undisturbed_tick
    ⟨⟨ticked.released, ticked.masked, ticked.flatMasked, ticked.unheld, ticked.same⟩,
      ticked.unpressed⟩
  pending {map flat} h := by
    show map.ints.enabled &&& map.ints.requested &&& 0x1F =
      flat.peek 0xFFFF &&& flat.peek 0xFF0F &&& 0x1F
    simp only [h.masked, h.flatMasked, UInt8.zero_and]
  acknowledge h source := h.acknowledge source
  poll h := h.toMirrors.poll
  buttonHeld h := h.unpressed.trans h.unheld.symm
  resetDivider h := h.undisturbed ⟨rfl, rfl, rfl, rfl, rfl⟩

/-- Empty plain memory mirrors the machine as the boot program leaves it. -/
theorem settled_afterBoot : Settled MemoryMap.afterBoot {} where
  released := rfl
  masked := rfl
  flatMasked := Ram.read_zeroed _
  unheld := rfl
  same address inRam := by
    have empty : ({} : Flat).peek address = 0 := Ram.read_zeroed _
    exact (MemoryMap.read_start (.inr rfl) inRam.plain).trans empty.symm
  unpressed := rfl

/-! ## Steps -/

namespace Cpu

/-- **One step on both buses.** -/
theorem sameTalk_step (cpu : Cpu) {map : MemoryMap} {flat : Flat} (h : Mirrors map flat)
    (within : Within InRam (cpu.step.record map).1 ∨ Within InRam (cpu.step.record flat).1) :
    SameTalk Mirrors (cpu.step.record map) (cpu.step.record flat) := by
  cases faulty : cpu.fault with
  | some fault =>
    rw [step_of_fault faulty]
    exact ⟨rfl, rfl, h⟩
  | none =>
    obtain ⟨rest, begins, -⟩ := exists_paced_step faulty
    rw [begins] at within ⊢
    obtain ⟨calls, result, buses⟩ := agreement_settled.record_of_or rest h.poll
      (within.imp Within.tail Within.tail)
    exact ⟨congrArg (Call.poll :: ·) calls, result, buses.toMirrors⟩

section
variable {β : Type} [Bus β]

/-- The processor and its bus after so many steps. -/
def steps (cpu : Cpu) (bus : β) : Nat → Cpu × β
  | 0 => (cpu, bus)
  | n + 1 =>
    match (steps cpu bus n).1.step.run (steps cpu bus n).2 with
    | (outcome, after) => (outcome.cpu, after)

/-- How step `n` ends, the first being step zero. -/
def outcomeAt (cpu : Cpu) (bus : β) (n : Nat) : Outcome :=
  ((cpu.steps bus n).1.step.run (cpu.steps bus n).2).1

/-- The calls of step `n`. -/
def callsAt (cpu : Cpu) (bus : β) (n : Nat) : List Call :=
  ((cpu.steps bus n).1.step.record (cpu.steps bus n).2).1

end

variable {cpu : Cpu} {map : MemoryMap} {flat : Flat}

/-- Step `n` on both buses, if they have led to the same processor. -/
theorem sameTalk_at {n : Nat} (same : (cpu.steps map n).1 = (cpu.steps flat n).1)
    (mirrors : Mirrors (cpu.steps map n).2 (cpu.steps flat n).2)
    (within : Within InRam (cpu.callsAt map n) ∨ Within InRam (cpu.callsAt flat n)) :
    SameTalk Mirrors ((cpu.steps map n).1.step.record (cpu.steps map n).2)
      ((cpu.steps flat n).1.step.record (cpu.steps flat n).2) := by
  unfold callsAt at within
  rw [← same] at within ⊢
  exact sameTalk_step _ mirrors within

/-- So many steps on both buses lead to the same processor. -/
theorem mirrors_steps (h : Mirrors map flat) (n : Nat)
    (within : ∀ i < n, Within InRam (cpu.callsAt map i) ∨ Within InRam (cpu.callsAt flat i)) :
    (cpu.steps map n).1 = (cpu.steps flat n).1 ∧ Mirrors (cpu.steps map n).2 (cpu.steps flat n).2 := by
  induction n with
  | zero => exact ⟨rfl, h⟩
  | succ n ih =>
    obtain ⟨same, mirrors⟩ := ih fun i early => within i (by omega)
    obtain ⟨-, result, buses⟩ := sameTalk_at same mirrors (within n (by omega))
    simp only [Dialogue.record_snd] at result buses
    exact ⟨congrArg Outcome.cpu result, buses⟩

/-- **A program that stays in work memory and high memory runs as on plain memory.**  With no button
down and no interrupt enabled, and with the same bytes to begin with, every step has the same outcome
and makes the same calls on both buses, and after any number of steps the processors are equal and so
are the two memories, whatever the devices of the memory map do meanwhile.  It is enough that the
accesses of each step stay there on one of the two buses. -/
theorem runs_as_on_plain_memory (start : Mirrors map flat) (n : Nat)
    (within : ∀ i < n, Within InRam (cpu.callsAt map i) ∨ Within InRam (cpu.callsAt flat i)) :
    (∀ i < n, (cpu.outcomeAt map i).result = (cpu.outcomeAt flat i).result ∧
        cpu.callsAt map i = cpu.callsAt flat i) ∧
      ∀ i ≤ n, (cpu.steps map i).1 = (cpu.steps flat i).1 ∧
        ∀ address, InRam address →
          (cpu.steps map i).2.read address = (cpu.steps flat i).2.peek address := by
  constructor
  · intro i early
    obtain ⟨same, mirrors⟩ := mirrors_steps start i fun j earlier => within j (by omega)
    obtain ⟨calls, result, -⟩ := sameTalk_at same mirrors (within i early)
    simp only [Dialogue.record_snd] at result
    exact ⟨congrArg Outcome.result result, calls⟩
  · intro i early
    obtain ⟨same, mirrors⟩ := mirrors_steps start i fun j earlier => within j (by omega)
    exact ⟨same, mirrors.same⟩

/-- A push in work memory, and the empty instruction after it, with the LCD on. -/
theorem push_runs_as_on_plain_memory :
    let cpu : Cpu := { regs := { pc := 0xC000, sp := 0xD000, b := 0x12, c := 0x34 } }
    let map := MemoryMap.afterBoot.write 0xC000 0xC5
    let flat := ({} : Flat).poke 0xC000 0xC5
    Mirrors map flat ∧ (∀ i < 2, Within InRam (cpu.callsAt map i)) ∧
      cpu.callsAt map 0 = [.poll, .read 0xC000 0xC5, .tick, .tick, .write 0xCFFF 0x12, .tick,
        .write 0xCFFE 0x34, .tick] ∧
      cpu.callsAt flat 0 = cpu.callsAt map 0 ∧ (cpu.steps map 2).1 = (cpu.steps flat 2).1 := by
  intro cpu map flat
  have start : Mirrors map flat := (settled_afterBoot.write (by decide) 0xC5).toMirrors
  have within : ∀ i < 2, Within InRam (cpu.callsAt map i) := by decide
  obtain ⟨alike, after⟩ := runs_as_on_plain_memory start 2 fun i early => .inl (within i early)
  exact ⟨start, within, by decide, (alike 0 (by decide)).2.symm, (after 2 (by decide)).1⟩

end Cpu
end DotMatrix
