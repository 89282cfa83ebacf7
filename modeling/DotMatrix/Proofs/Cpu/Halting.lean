import DotMatrix.Proofs.Cpu.Dispatching

/-! # Waiting for an interrupt

HALT ends the step that executes it, and the waiting is done in later steps, each of one M-cycle.  Between two
of them the bus may be used by others, so each step here finds a bus of its own.  This module says what such
a wait is like however long it lasts (`Cpu.Sleeps`), then what the step of a HALT leaves in each of its four
cases (`Cpu.Halts`), and joins the two: from the HALT to the interrupt no instruction is skipped or repeated,
and no interrupt is missed (`Cpu.halting`).
-/
namespace DotMatrix
namespace Cpu
open Microcode

section
variable {β : Type} [Bus β] {cpu : Cpu} {bus : β}

/-! ## Steps on changing buses -/

/-- The processor after so many steps, of which each finds its own bus. -/
def along (cpu : Cpu) (buses : Nat → β) : Nat → Cpu
  | 0 => cpu
  | n + 1 => ((cpu.along buses n).step.run (buses n)).1.cpu

/-- **A step that fetches an opcode** where the program counter stands, and moves that to `onward`. -/
structure Fetches (cpu : Cpu) (bus : β) (onward : UInt16) : Prop where
  calls : ∃ rest, (cpu.step.record bus).1 =
    .poll :: .read cpu.regs.pc (Bus.read (Bus.poll bus) cpu.regs.pc).1 :: .tick :: rest
  /-- The processor is as before but for the program counter and the time, and no byte is to be read twice. -/
  deed : (cpu.step.run bus).1.deed = .execute cpu.regs.pc (Bus.read (Bus.poll bus) cpu.regs.pc).1
    { cpu with
      regs := { cpu.regs with pc := onward }
      cycles := cpu.cycles + 4
      haltBug := false }

theorem fetches_of_quiet (healthy : cpu.fault = none) (awake : cpu.state = .running)
    (quiet : cpu.ime = false ∨ Bus.pending (Bus.poll bus) = 0) :
    cpu.Fetches bus (if cpu.haltBug then cpu.regs.pc else cpu.regs.pc + 1) := by
  have talk := record_step healthy awake quiet
  obtain ⟨⟨rest, calls⟩, deed⟩ := @begins_instruct β _ cpu (Bus.poll bus)
  constructor
  case calls =>
    rw [talk]
    exact ⟨rest, congrArg (Call.poll :: ·) calls⟩
  case deed =>
    rw [← Dialogue.record_snd, talk]
    exact deed

/-! ## While the processor is halted -/

/-- Nothing is pending at the end of an M-cycle of waiting. -/
def Silent (bus : β) : Prop := Bus.pending (Bus.tick (Bus.poll bus)) = 0

instance (bus : β) : Decidable (Silent bus) := inferInstanceAs (Decidable (_ = _))

/-- A wait ends with step `n`: something is pending at the end of it, for the first time. -/
def EndsAt (buses : Nat → β) (n : Nat) : Prop := (∀ i < n, Silent (buses i)) ∧ ¬ Silent (buses n)

instance (buses : Nat → β) (n : Nat) : Decidable (EndsAt buses n) := inferInstanceAs (Decidable (_ ∧ _))

/-- **A step of waiting.** -/
structure Waits (cpu : Cpu) (bus : β) : Prop where
  calls : (cpu.step.record bus).1 = [.poll, .tick]
  result : (cpu.step.run bus).1.result = .ok 4
  /-- All that changes of the processor.  IME has no part in it. -/
  after : (cpu.step.run bus).1.cpu = { cpu with
    cycles := cpu.cycles + 4
    state := if Bus.pending (cpu.step.run bus).2 = 0 then .halted else .running }
  bus : (cpu.step.run bus).2 = Bus.tick (Bus.poll bus)

theorem waits_of_halted (healthy : cpu.fault = none) (halted : cpu.state = .halted) : cpu.Waits bus := by
  have talk := @record_of_halted β _ cpu bus healthy halted
  have ended : cpu.step.run bus = _ := (Dialogue.record_snd ..).symm.trans (congrArg Prod.snd talk)
  refine ⟨by rw [talk], ?_, ?_, ?_⟩ <;> rw [ended]

/-- A step at the end of which nothing is pending changes the time only. -/
theorem Waits.asleep (waits : cpu.Waits bus) (halted : cpu.state = .halted) (silent : Silent bus) :
    (cpu.step.run bus).1.cpu = { cpu with cycles := cpu.cycles + 4 } := by
  have none : Bus.pending (cpu.step.run bus).2 = 0 := by rwa [waits.bus]
  rw [waits.after, if_pos none, ← halted]

/-- A step at the end of which something is pending ends the wait. -/
theorem Waits.awake (waits : cpu.Waits bus) (loud : ¬ Silent bus) :
    (cpu.step.run bus).1.cpu = { cpu with cycles := cpu.cycles + 4, state := .running } := by
  have some : ¬ Bus.pending (cpu.step.run bus).2 = 0 := by rwa [waits.bus]
  rw [waits.after, if_neg some]

/-- **How a halted processor waits**, on the buses that its steps find. -/
structure Sleeps (cpu : Cpu) (buses : Nat → β) : Prop where
  /-- It waits as long as nothing is pending. -/
  waits : ∀ n, (∀ i < n, Silent (buses i)) →
    cpu.along buses n = { cpu with cycles := cpu.cycles + 4 * n } ∧ (cpu.along buses n).Waits (buses n)
  /-- And it is awake as soon as something is, whatever IME is. -/
  wakes : ∀ n, EndsAt buses n →
    cpu.along buses (n + 1) = { cpu with cycles := cpu.cycles + 4 * (n + 1), state := .running }
  /-- If it is pending still, and IME is on, the next step is a dispatch. -/
  serves : ∀ n, EndsAt buses n → cpu.ime = true → Bus.pending (Bus.poll (buses (n + 1))) ≠ 0 →
    ∃ source, (cpu.along buses (n + 1)).Serves (buses (n + 1)) source
  /-- If not, the next step fetches the opcode that the program counter has been at all the time. -/
  fetches : ∀ n, EndsAt buses n → cpu.ime = false ∨ Bus.pending (Bus.poll (buses (n + 1))) = 0 →
    cpu.haltBug = false → (cpu.along buses (n + 1)).Fetches (buses (n + 1)) (cpu.regs.pc + 1)

theorem along_of_silent (healthy : cpu.fault = none) (halted : cpu.state = .halted) {buses : Nat → β}
    {n : Nat} (silent : ∀ i < n, Silent (buses i)) :
    cpu.along buses n = { cpu with cycles := cpu.cycles + 4 * n } := by
  induction n with
  | zero => rfl
  | succ n ih =>
    have sleeping := ih fun i early => silent i (by omega)
    have waits : (cpu.along buses n).Waits (buses n) := by
      rw [sleeping]
      exact waits_of_halted healthy halted
    have asleep : (cpu.along buses n).state = .halted := by
      rw [sleeping]
      exact halted
    have later := waits.asleep asleep (silent n (by omega))
    rw [along, later, sleeping, Nat.mul_succ, Nat.add_assoc]

/-- **A halted processor waits for as long as it takes.** -/
theorem sleeps_of_halted [Bus.Lawful β] (healthy : cpu.fault = none) (halted : cpu.state = .halted)
    (buses : Nat → β) : cpu.Sleeps buses := by
  have waits (n : Nat) (silent : ∀ i < n, Silent (buses i)) :
      cpu.along buses n = { cpu with cycles := cpu.cycles + 4 * n } ∧
        (cpu.along buses n).Waits (buses n) := by
    have sleeping := along_of_silent healthy halted silent
    refine ⟨sleeping, ?_⟩
    rw [sleeping]
    exact waits_of_halted healthy halted
  have wakes (n : Nat) (ends : EndsAt buses n) :
      cpu.along buses (n + 1) = { cpu with cycles := cpu.cycles + 4 * (n + 1), state := .running } := by
    obtain ⟨sleeping, waiting⟩ := waits n ends.1
    rw [along, waiting.awake ends.2, sleeping, Nat.mul_succ, Nat.add_assoc]
  refine ⟨waits, wakes, ?_, ?_⟩
  · intro n ends served pending
    rw [wakes n ends]
    exact Due.exists_serves ⟨healthy, .inl rfl, served, pending⟩
  · intro n ends quiet plain
    have fetches := @fetches_of_quiet β _
      { cpu with cycles := cpu.cycles + 4 * (n + 1), state := .running } _ healthy rfl quiet
    rw [wakes n ends]
    simpa only [plain, Bool.false_eq_true, if_false] using fetches

/-! ## The step of a HALT -/

/-- The processor as HALT leaves it, from what is pending at the end of its fetch. -/
def afterHalt (cpu : Cpu) (waiting : UInt8) : Cpu :=
  if cpu.ime || waiting == 0 then { cpu with
    regs := { cpu.regs with pc := cpu.regs.pc + 1 }
    cycles := cpu.cycles + 4
    state := .halted
    ime := cpu.ime || cpu.enabling
    enabling := false }
  else if cpu.enabling then { cpu with
    cycles := cpu.cycles + 4
    state := .running
    ime := true
    enabling := false }
  else { cpu with
    regs := { cpu.regs with pc := cpu.regs.pc + 1 }
    cycles := cpu.cycles + 4
    state := .running
    haltBug := true }

theorem cycles_afterHalt (cpu : Cpu) (waiting : UInt8) :
    (cpu.afterHalt waiting).cycles = cpu.cycles + 4 := by
  unfold afterHalt
  split
  · rfl
  · split <;> rfl

/-- HALT puts the processor to sleep if it serves interrupts or nothing is pending, and in no other case. -/
theorem state_afterHalt (cpu : Cpu) (waiting : UInt8) :
    (cpu.afterHalt waiting).state = .halted ↔ cpu.ime = true ∨ waiting = 0 := by
  rw [← beq_iff_eq (a := waiting), ← Bool.or_eq_true]
  unfold afterHalt
  split
  · rename_i sleeps
    exact iff_of_true rfl sleeps
  · rename_i awake
    refine iff_of_false ?_ awake
    split <;> exact nofun

/-- HALT and the end of its step, together. -/
theorem settled_halt (plain : cpu.haltBug = false) (waiting : UInt8) :
    let woken : Cpu := { cpu with state := .running }
    woken.settled (if woken.fetched.ime || waiting == 0 then { woken.fetched with state := .halted }
      else if woken.fetched.enabling then
        { woken.fetched with regs := { woken.fetched.regs with pc := woken.fetched.regs.pc - 1 } }
      else { woken.fetched with haltBug := true }) = cpu.afterHalt waiting := by
  obtain ⟨regs, ime, state, cycles, enabling, haltBug, fault⟩ := cpu
  obtain rfl : haltBug = false := plain
  have back : regs.pc + 1 - 1 = regs.pc := by grind
  -- A wish to enable interrupts is still there behind a HALT, and is granted in all cases but the last.
  cases ime <;> cases enabling <;> cases silent : waiting == 0 <;>
    simp [settled, fetched, afterHalt, back, silent]

/-- A step that executes a HALT, unless its opcode is one that is read twice. -/
structure AtHalt (cpu : Cpu) (bus : β) : Prop where
  plain : cpu.haltBug = false
  deed : ∃ address fetched, (cpu.step.run bus).1.deed = .execute address 0x76 fetched

/-- **What the step of a HALT is.** -/
theorem AtHalt.record (atHalt : cpu.AtHalt bus) :
    let after := Bus.tick (Bus.read (Bus.poll bus) cpu.regs.pc).2
    cpu.fault = none ∧ (cpu.step.record bus).1 = [.poll, .read cpu.regs.pc 0x76, .tick] ∧
      cpu.step.run bus = (finish cpu.cycles
        (.execute cpu.regs.pc 0x76 (Cpu.fetched { cpu with state := .running }))
        (cpu.afterHalt (Bus.pending after)), after) := by
  intro after
  obtain ⟨plain, address, fetched, deed⟩ := atHalt
  obtain ⟨talk, healthy, opcode⟩ := record_of_execute deed
  have named : Instruction.decode (Bus.read (Bus.poll bus) cpu.regs.pc).1 = some .halt := by
    rw [← opcode]
    rfl
  rw [@record_instruct_of_named β _ { cpu with state := .running } _ _ named] at talk
  rw [← Dialogue.record_snd, talk, ← settled_halt plain]
  simp only [← opcode]
  exact ⟨healthy, rfl, rfl⟩

/-- **What a HALT comes to**, the later steps on the buses that they find. -/
structure Halts (cpu : Cpu) (bus : β) (later : Nat → β) : Prop where
  calls : (cpu.step.record bus).1 = [.poll, .read cpu.regs.pc 0x76, .tick]
  result : (cpu.step.run bus).1.result = .ok 4
  /-- The processor waits if it serves interrupts or nothing is pending, and in no other case. -/
  halted : (cpu.step.run bus).1.cpu.state = .halted ↔
    cpu.ime = true ∨ Bus.pending (cpu.step.run bus).2 = 0
  /-- It waits behind the HALT. -/
  sleeps : cpu.ime = true ∨ Bus.pending (cpu.step.run bus).2 = 0 →
    (cpu.step.run bus).1.cpu = { cpu with
      regs := { cpu.regs with pc := cpu.regs.pc + 1 }
      cycles := cpu.cycles + 4
      state := .halted
      ime := cpu.ime || cpu.enabling
      enabling := false } ∧ (cpu.step.run bus).1.cpu.Sleeps later
  /-- It stays at the HALT if interrupts were just to be enabled, so that the handler returns to the HALT. -/
  returns : cpu.ime = false → Bus.pending (cpu.step.run bus).2 ≠ 0 → cpu.enabling = true →
    (cpu.step.run bus).1.cpu = { cpu with
      cycles := cpu.cycles + 4
      state := .running
      ime := true
      enabling := false } ∧
    (Bus.pending (Bus.poll (later 0)) ≠ 0 → ∃ source, (cpu.step.run bus).1.cpu.Serves (later 0) source)
  /-- Otherwise the byte behind the HALT is fetched as an opcode, and is still the next one then. -/
  repeats : cpu.ime = false → Bus.pending (cpu.step.run bus).2 ≠ 0 → cpu.enabling = false →
    (cpu.step.run bus).1.cpu = { cpu with
      regs := { cpu.regs with pc := cpu.regs.pc + 1 }
      cycles := cpu.cycles + 4
      state := .running
      haltBug := true } ∧
    (cpu.step.run bus).1.cpu.Fetches (later 0) (cpu.regs.pc + 1)

/-- **Every HALT comes to this.** -/
theorem AtHalt.halts [Bus.Lawful β] (atHalt : cpu.AtHalt bus) (later : Nat → β) : cpu.Halts bus later := by
  obtain ⟨healthy, calls, ended⟩ := atHalt.record
  have after : (cpu.step.run bus).1.cpu = cpu.afterHalt (Bus.pending (cpu.step.run bus).2) := by
    rw [ended]
    rfl
  constructor
  case calls => exact calls
  case result =>
    rw [ended, finish, cycles_afterHalt, Nat.add_sub_cancel_left]
  case halted =>
    rw [after]
    exact cpu.state_afterHalt _
  case sleeps =>
    intro sleeps
    have asleep : (cpu.ime || Bus.pending (cpu.step.run bus).2 == 0) = true := by simpa using sleeps
    rw [after, afterHalt, if_pos asleep]
    refine ⟨rfl, sleeps_of_halted ?_ rfl later⟩
    exact healthy
  case returns =>
    intro off waits enabling
    have awake : ¬ (cpu.ime || Bus.pending (cpu.step.run bus).2 == 0) = true := by simp [off, waits]
    rw [after, afterHalt, if_neg awake, if_pos enabling]
    exact ⟨rfl, fun still => Due.exists_serves ⟨healthy, .inl rfl, rfl, still⟩⟩
  case repeats =>
    intro off waits unwanted
    have awake : ¬ (cpu.ime || Bus.pending (cpu.step.run bus).2 == 0) = true := by simp [off, waits]
    rw [after, afterHalt, if_neg awake, if_neg (by simp [unwanted])]
    exact ⟨rfl, fetches_of_quiet healthy rfl (.inl off)⟩

end

/-- **How a processor waits for an interrupt** on buses of one kind: how it comes to that, and how it goes on
until it is awake again. -/
structure Halting (β : Type) [Bus β] : Prop where
  halts : ∀ (cpu : Cpu) (bus : β), cpu.AtHalt bus → ∀ later, cpu.Halts bus later
  sleeps : ∀ cpu : Cpu, cpu.fault = none → cpu.state = .halted → ∀ buses : Nat → β, cpu.Sleeps buses

/-- **HALT waits exactly for a pending interrupt** on every bus that keeps to the five sources. -/
theorem halting {β : Type} [Bus β] [Bus.Lawful β] : Halting β where
  halts _ _ atHalt later := atHalt.halts later
  sleeps _ healthy halted := sleeps_of_halted healthy halted

/-- An interrupt that nobody serves comes up in the third M-cycle of waiting. -/
theorem halting_unserved :
    let cpu : Cpu := { regs := { pc := 0x1234 } }
    let bell : Bell := ⟨0x76, 0x00, 0⟩
    let later (n : Nat) : Bell := ⟨0x00, if n < 2 then 0x00 else 0x04, n⟩
    let ended := (cpu.step.run bell).1.cpu
    cpu.AtHalt bell ∧ EndsAt later 2 ∧ Bus.pending (Bus.poll (later 3)) ≠ 0 ∧
      ended.along later 3 = { regs := { pc := 0x1235 }, cycles := 16 } ∧
      (ended.along later 3).Fetches (later 3) 0x1236 := by
  intro cpu bell later ended
  have atHalt : cpu.AtHalt bell := ⟨rfl, 0x1234, cpu.fetched, by decide⟩
  have ends : EndsAt later 2 := by decide
  obtain ⟨after, sleeps⟩ := (halting.halts cpu bell atHalt later).sleeps (.inr (by decide))
  have onward : ended.regs.pc + 1 = 0x1236 := by decide
  have fetches : (ended.along later 3).Fetches (later 3) (ended.regs.pc + 1) :=
    sleeps.fetches 2 ends (.inl (by decide)) (by decide)
  rw [onward] at fetches
  exact ⟨atHalt, ends, by decide, (sleeps.wakes 2 ends).trans (by decide), fetches⟩

end Cpu
end DotMatrix
