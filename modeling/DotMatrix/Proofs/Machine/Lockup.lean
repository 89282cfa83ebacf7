import DotMatrix.Proofs.Bus.Agreement
import DotMatrix.Proofs.Machine.Pieces

/-! # Lockups

Eleven bytes name no instruction, and a processor that fetches one of them as an opcode locks up.  This
module first says how the steps of a processor without a fault end, whatever the bus answers (`Ending`).
So a step fails only in one way, which leaves hardly anything changed (`Cpu.lockedUp`); and from then on
nothing moves, in no step and in none of the runs that a machine can be asked for.
-/
namespace DotMatrix

/-- The byte that a call reads. -/
def Call.byteRead? : Call → Option UInt8
  | .read _ value => some value
  | _ => none

namespace Cpu
open Microcode

/-! ## How a step ends -/

/-- A processor that has fetched an opcode. -/
def fetched (cpu : Cpu) : Cpu :=
  { cpu with
    regs := { cpu.regs with pc := if cpu.haltBug then cpu.regs.pc else cpu.regs.pc + 1 }
    cycles := cpu.cycles + 4
    haltBug := false }

/-- **A locked processor**: it has fetched an opcode, and has stopped at it. -/
def lockedUp (cpu : Cpu) (opcode : UInt8) : Cpu :=
  { cpu.fetched with state := .stopped, fault := some (.illegalOpcode opcode cpu.regs.pc) }

/-- How the steps of a processor without a fault end, and their calls after the buttons were sampled. -/
inductive Ending (cpu : Cpu) : List Call → Outcome → Prop where
  | rested {calls : List Call} {outcome : Outcome} {spent : Nat}
    (unread : ∀ call ∈ calls, call.byteRead? = none) (went : outcome.result = .ok spent) :
    Ending cpu calls outcome
  | executed {opcode : UInt8} {rest : List Call} {outcome : Outcome} {spent : Nat}
    (legal : opcode ∉ Instruction.gaps) (went : outcome.result = .ok spent) :
    Ending cpu (.read cpu.regs.pc opcode :: .tick :: rest) outcome
  | failed {opcode : UInt8} (illegal : opcode ∈ Instruction.gaps) (deed : Deed) :
    Ending cpu [.read cpu.regs.pc opcode, .tick]
      ⟨.error (.illegalOpcode opcode cpu.regs.pc), cpu.lockedUp opcode, deed⟩

/-- A fetch makes one access, and nothing of it depends on the byte that it finds. -/
theorem meets_fetch (cpu : Cpu) : (fetch cpu).Meets fun calls out =>
    calls = [.read cpu.regs.pc out.1, .tick] ∧ out.2 = cpu.fetched := by
  intro opcode
  refine ⟨rfl, ?_⟩
  show (if cpu.haltBug = true then _ else _ : Cpu) = _
  cases bug : cpu.haltBug <;> simp [fetched, bug]

theorem ending_instruct (cpu : Cpu) : cpu.instruct.Meets cpu.Ending := by
  refine cpu.meets_fetch.bind fun calls out done => ?_
  obtain ⟨rfl, after⟩ := done
  cases named : Instruction.decode out.1 with
  | none =>
    have illegal := (Instruction.decode_eq_none_iff out.1).mp named
    simp only [Microcode.execute, named, after]
    exact .failed illegal _
  | some instruction =>
    have legal : out.1 ∉ Instruction.gaps := by
      rw [← Instruction.decode_eq_none_iff, named]
      exact nofun
    have executed : (Microcode.execute out.1 out.2).Meets fun _ result => result.1 = some () :=
      meets_execute named (((inferInstance : Works true instruction.perform).work out.2).mono
        fun _ _ _ => rfl)
    refine executed.bind fun more result went => ?_
    obtain ⟨result, later⟩ := result
    obtain rfl : result = some () := went
    dsimp only
    split
    · exact .executed legal rfl
    · exact .executed legal rfl

theorem ending_proceed (cpu : Cpu) : cpu.proceed.Meets cpu.Ending := by
  intro mask
  dsimp only
  split
  · split
    · rename_i source _
      have written : (dispatch source cpu).Meets fun calls _ => ∀ call ∈ calls, call.byteRead? = none := by
        intro call member
        simp at member
        rcases member with rfl | rfl | rfl | rfl | rfl | rfl <;> rfl
      refine written.bind fun calls out unread => ?_
      exact .rested (by simpa using unread) rfl
    · exact .rested nofun rfl
  · exact cpu.ending_instruct

/-- Waking up changes nothing about how a step ends. -/
theorem Ending.of_awake {cpu : Cpu} {calls : List Call} {outcome : Outcome}
    (h : ({ cpu with state := .running } : Cpu).Ending calls outcome) : cpu.Ending calls outcome := by
  cases h with
  | rested unread went => exact .rested unread went
  | executed legal went => exact .executed legal went
  | failed illegal deed => exact .failed illegal deed

/-- **How a step ends** that is not refused. -/
theorem exists_ending_step {cpu : Cpu} (healthy : cpu.fault = none) :
    ∃ rest, cpu.step = .poll rest ∧ rest.Meets cpu.Ending := by
  unfold step
  split
  · rename_i faulty
    rw [healthy] at faulty
    cases faulty
  · refine ⟨_, rfl, ?_⟩
    split
    · exact cpu.ending_proceed
    · intro mask
      exact .rested (by simp [Call.byteRead?]) rfl
    · intro held
      dsimp only
      split
      · exact (ending_proceed _).mono fun _ _ ending => ending.of_awake
      · exact .rested (by simp [Call.byteRead?]) rfl

section
variable {β : Type} [Bus β] {cpu : Cpu}

/-- The opcode that a step fetches: the first byte that it reads. -/
def opcode? (cpu : Cpu) (bus : β) : Option UInt8 := (cpu.step.record bus).1.findSome? Call.byteRead?

/-- **How a step ends on a bus**, if it is not refused: without an opcode, or with one that names an
instruction, or with one that locks the processor up. -/
theorem step_ends (healthy : cpu.fault = none) (bus : β) :
    (cpu.opcode? bus = none ∧ ∃ spent, (cpu.step.run bus).1.result = .ok spent) ∨
      (∃ opcode rest spent, cpu.opcode? bus = some opcode ∧ opcode ∉ Instruction.gaps ∧
        (cpu.step.record bus).1 = .poll :: .read cpu.regs.pc opcode :: .tick :: rest ∧
        (cpu.step.run bus).1.result = .ok spent) ∨
      ∃ opcode, cpu.opcode? bus = some opcode ∧ opcode ∈ Instruction.gaps ∧
        (cpu.step.record bus).1 = [.poll, .read cpu.regs.pc opcode, .tick] ∧
        (cpu.step.run bus).1.result = .error (.illegalOpcode opcode cpu.regs.pc) ∧
        (cpu.step.run bus).1.cpu = cpu.lockedUp opcode := by
  obtain ⟨rest, polls, ending⟩ := exists_ending_step healthy
  have ended := ending.of_record (Bus.poll bus)
  rw [← Dialogue.record_snd]
  simp only [opcode?, polls, Dialogue.record]
  generalize rest.record (Bus.poll bus) = record at ended ⊢
  obtain ⟨calls, outcome, after⟩ := record
  cases ended with
  | rested unread went =>
    exact .inl ⟨List.findSome?_eq_none_iff.mpr (List.forall_mem_cons.mpr ⟨rfl, unread⟩), _, went⟩
  | executed legal went => exact .inr (.inl ⟨_, _, _, rfl, legal, rfl, went⟩)
  | failed illegal deed => exact .inr (.inr ⟨_, rfl, illegal, rfl, rfl, rfl⟩)

/-! ## Failing for good -/

/-- Steps after a fault lead nowhere. -/
theorem steps_of_fault {fault : Fault} (faulty : cpu.fault = some fault) (bus : β) (n : Nat) :
    cpu.steps bus n = (cpu, bus) := by
  induction n with
  | zero => rfl
  | succ n ih =>
    rw [steps, ih]
    simp only [step_of_fault faulty, Dialogue.run]

/-- A step, and the steps after it. -/
theorem steps_succ (cpu : Cpu) (bus : β) (n : Nat) :
    cpu.steps bus (n + 1) = (cpu.steps bus 1).1.steps (cpu.steps bus 1).2 n := by
  induction n with
  | zero => rfl
  | succ n ih =>
    rw [steps, ih]
    rfl

/-- **What locks a processor up, and that this is for good**, on whatever bus. -/
structure LocksUp (cpu : Cpu) (bus : β) : Prop where
  /-- A step that fetches an opcode begins with that, at the program counter. -/
  fetches : ∀ opcode, cpu.opcode? bus = some opcode →
    ∃ rest, (cpu.step.record bus).1 = .poll :: .read cpu.regs.pc opcode :: .tick :: rest
  /-- A step fails after a fault, and else if its opcode names no instruction. -/
  fails : (∃ fault, (cpu.step.run bus).1.result = .error fault) ↔
    cpu.fault ≠ none ∨ ∃ opcode, cpu.opcode? bus = some opcode ∧ opcode ∈ Instruction.gaps
  /-- The first step that fails fetches its opcode and does nothing else. -/
  first : cpu.fault = none → ∀ fault, (cpu.step.run bus).1.result = .error fault →
    ∃ opcode ∈ Instruction.gaps, fault = .illegalOpcode opcode cpu.regs.pc ∧
      (cpu.step.record bus).1 = [.poll, .read cpu.regs.pc opcode, .tick] ∧
      (cpu.step.run bus).1.cpu = cpu.lockedUp opcode
  /-- The fault stays, and the next step is over before it begins: it neither calls nor asks the bus,
  whatever bus that is, and leaves the processor as it is. -/
  refuses : ∀ fault, (cpu.step.run bus).1.result = .error fault →
    (cpu.step.run bus).1.cpu.fault = some fault ∧
      (cpu.step.run bus).1.cpu.step = .done ⟨.error fault, (cpu.step.run bus).1.cpu, .refuse⟩
  /-- However many steps are made, nothing moves any more. -/
  stands : ∀ fault, (cpu.step.run bus).1.result = .error fault → ∀ n,
    cpu.steps bus (n + 1) = cpu.steps bus 1 ∧ cpu.callsAt bus (n + 1) = [] ∧
      (cpu.outcomeAt bus (n + 1)).result = .error fault

theorem fails_iff (cpu : Cpu) (bus : β) : (∃ fault, (cpu.step.run bus).1.result = .error fault) ↔
    cpu.fault ≠ none ∨ ∃ opcode, cpu.opcode? bus = some opcode ∧ opcode ∈ Instruction.gaps := by
  cases faulty : cpu.fault with
  | some fault =>
    rw [step_of_fault faulty]
    exact ⟨fun _ => .inl nofun, fun _ => ⟨fault, rfl⟩⟩
  | none =>
    rcases step_ends faulty bus with ⟨unread, spent, went⟩ |
      ⟨opcode, rest, spent, fetched, legal, -, went⟩ | ⟨opcode, fetched, illegal, -, failed, -⟩
    · simp [unread, went]
    · simp [fetched, legal, went]
    · simp [fetched, illegal, failed]

/-- **Every processor locks up like this.** -/
theorem locksUp (cpu : Cpu) (bus : β) : cpu.LocksUp bus := by
  have stays {fault : Fault} (failed : (cpu.step.run bus).1.result = .error fault) :
      (cpu.steps bus 1).1.fault = some fault := fault_of_step failed
  constructor
  case fetches =>
    intro opcode fetched
    cases faulty : cpu.fault with
    | some fault =>
      rw [opcode?, step_of_fault faulty] at fetched
      cases fetched
    | none =>
      rcases step_ends faulty bus with ⟨unread, -⟩ | ⟨_, rest, _, fetched', -, calls, -⟩ |
        ⟨_, fetched', -, calls, -⟩
      · rw [unread] at fetched
        cases fetched
      · rw [fetched] at fetched'
        cases fetched'
        exact ⟨rest, calls⟩
      · rw [fetched] at fetched'
        cases fetched'
        exact ⟨[], calls⟩
  case fails => exact cpu.fails_iff bus
  case first =>
    intro healthy fault failed
    rcases step_ends healthy bus with ⟨-, spent, went⟩ | ⟨_, _, spent, -, -, -, went⟩ |
      ⟨opcode, -, illegal, calls, failed', after⟩
    · rw [failed] at went
      cases went
    · rw [failed] at went
      cases went
    · rw [failed] at failed'
      exact ⟨opcode, illegal, Except.error.inj failed', calls, after⟩
  case refuses =>
    intro fault failed
    exact ⟨fault_of_step failed, step_of_fault (fault_of_step failed)⟩
  case stands =>
    intro fault failed n
    have still : cpu.steps bus (n + 1) = cpu.steps bus 1 := by
      rw [steps_succ, steps_of_fault (stays failed)]
    refine ⟨still, ?_, ?_⟩
    · rw [callsAt, still, step_of_fault (stays failed)]
      rfl
    · rw [outcomeAt, still, step_of_fault (stays failed)]
      rfl

end
end Cpu

namespace Machine

/-! ## A machine with a fault -/

/-- **A machine that stands still**: whatever it is asked for, it answers with the same fault. -/
structure Stands (machine : Machine) (fault : Fault) : Prop where
  step : machine.step = (.error fault, machine)
  forCycles : ∀ cycles, 0 < cycles → machine.runForCycles cycles = (.error fault, machine)
  untilFrame : machine.runUntilFrame = (.error fault, { machine with frameDone := false })
  untilSeen : ∀ {σ : Type} (look : Machine → σ → Bool × σ) (limit : Nat) (memory later : σ),
    0 < limit → look machine memory = (false, later) →
    machine.runUntil look limit 0 memory = (.error fault, later, machine)

section
variable {machine : Machine} {fault : Fault}

theorem step_of_fault (faulty : machine.cpu.fault = some fault) :
    machine.step = (.error fault, machine) := by
  obtain ⟨cpu, memory, sink, frameDone, journal⟩ := machine
  have unmapped : memory.bootNotices memory.bootMapped = [] := by
    rw [MemoryMap.bootNotices, Bool.and_not_self]
    rfl
  simp only [step, Cpu.step_of_fault faulty, Dialogue.run, unmapped]
  rfl

theorem stands_of_fault (faulty : machine.cpu.fault = some fault) : machine.Stands fault where
  step := step_of_fault faulty
  forCycles cycles some := runUnless_of_error some rfl (step_of_fault faulty)
  untilFrame := runUnless_of_error (by decide) rfl (@step_of_fault { machine with frameDone := false } _ faulty)
  untilSeen look limit memory later some unseen :=
    runUntil_of_error unseen some (step_of_fault faulty)

/-- No event moves the processor of such a machine, and only the buttons may change. -/
theorem apply_of_fault (faulty : machine.cpu.fault = some fault) (event : Event) :
    (event.apply machine).cpu = machine.cpu ∧ (event.apply machine).sink = machine.sink ∧
      ∃ buttons, (event.apply machine).memory = { machine.memory with buttons := buttons } := by
  have stands := stands_of_fault faulty
  cases event with
  | step =>
    rw [Event.apply, stands.step]
    exact ⟨rfl, rfl, _, rfl⟩
  | runForCycles cycles =>
    rcases Nat.eq_zero_or_pos cycles with rfl | some
    · have rests : machine.runForCycles 0 = (.ok 0, machine) := runUnless_of_late (Nat.le_refl 0)
      rw [Event.apply, rests]
      exact ⟨rfl, rfl, _, rfl⟩
    · rw [Event.apply, stands.forCycles cycles some]
      exact ⟨rfl, rfl, _, rfl⟩
  | runUntilFrame =>
    rw [Event.apply, stands.untilFrame]
    exact ⟨rfl, rfl, _, rfl⟩
  | runUntil look limit memory =>
    rw [Event.apply]
    rcases seen : look machine memory with ⟨_ | _, later⟩
    · rcases Nat.eq_zero_or_pos limit with rfl | some
      · rw [runUntil_of_late seen (Nat.lt_irrefl 0)]
        exact ⟨rfl, rfl, _, rfl⟩
      · rw [stands.untilSeen look limit memory later some seen]
        exact ⟨rfl, rfl, _, rfl⟩
    · rw [runUntil_of_seen seen]
      exact ⟨rfl, rfl, _, rfl⟩
  | press buttons => exact ⟨rfl, rfl, buttons, rfl⟩

/-- Nor does any number of them. -/
theorem applyAll_of_fault (faulty : machine.cpu.fault = some fault) (events : List Event) :
    (applyAll events machine).cpu = machine.cpu ∧ (applyAll events machine).sink = machine.sink ∧
      ∃ buttons, (applyAll events machine).memory = { machine.memory with buttons := buttons } := by
  induction events generalizing machine with
  | nil => exact ⟨rfl, rfl, _, rfl⟩
  | cons event events ih =>
    obtain ⟨cpu, sink, buttons, memory⟩ := apply_of_fault faulty event
    obtain ⟨cpu', sink', buttons', memory'⟩ := ih (cpu ▸ faulty)
    refine ⟨cpu'.trans cpu, sink'.trans sink, buttons', ?_⟩
    show (applyAll events (event.apply machine)).memory = _
    rw [memory', memory]

end

/-- **What is left of a machine when a step of it fails**: the processor and the memory are as they are,
whatever happens, apart from the buttons; and at all times the machine stands still. -/
def StandsForGood (machine : Machine) : Prop :=
  ∀ fault, machine.step.1 = .error fault → ∀ events, let after := applyAll events machine.step.2
    after.Stands fault ∧ after.cpu = machine.step.2.cpu ∧ after.sink = machine.step.2.sink ∧
      ∃ buttons, after.memory = { machine.step.2.memory with buttons := buttons }

/-- **Lockups.**  A step fails after a fault, or if it fetches an opcode that names no instruction.  Then
it has sampled the buttons, read the opcode and let one M-cycle pass; the processor has stopped and keeps
the fault.  And a fault is final: later steps are refused and make no calls, and no run that a machine can
be asked for changes the processor, the memory or the picture. -/
theorem lockups_are_final {β : Type} [Bus β] (cpu : Cpu) (bus : β) (machine : Machine) :
    cpu.LocksUp bus ∧ machine.StandsForGood := by
  refine ⟨cpu.locksUp bus, fun fault failed events => ?_⟩
  obtain ⟨result, after⟩ := step_of_error failed
  have faulty : machine.step.2.cpu.fault = some fault := by
    rw [after]
    exact Cpu.fault_of_step result
  obtain ⟨same, sink, memory⟩ := applyAll_of_fault faulty events
  exact ⟨stands_of_fault (same ▸ faulty), same, sink, memory⟩

end Machine
end DotMatrix
