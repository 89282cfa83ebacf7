import DotMatrix.Proofs.Machine.Lockup

/-! # All that a step can be

How a step goes depends on the bus, and so there are many steps that a processor can make from one state.
This module lists them once (`Cpu.Step`): a step is refused or waited out, or the processor is awake and the
step is an empty one, a dispatch, or an opcode that names an instruction or none.  What an instruction does
is left to the instruction: any of its endings that are possible.
-/
namespace DotMatrix

/-! ## Possible endings -/

namespace Dialogue
variable {α : Type} {dialogue : Dialogue α}

/-- A dialogue can end like this: whatever holds of all its endings holds of this one. -/
def Possible (dialogue : Dialogue α) (calls : List Call) (result : α) : Prop :=
  ∀ p, dialogue.Meets p → p calls result

/-- **Every ending is a possible one.** -/
theorem meets_possible (dialogue : Dialogue α) : dialogue.Meets dialogue.Possible := by
  induction dialogue with
  | done result => exact fun _ h => h
  | poll _ ih | write _ _ _ ih | tick _ ih | acknowledge _ _ ih | resetDivider _ ih =>
    exact ih.mono fun _ _ possible _ h => possible _ h
  | read _ _ ih => exact fun value => (ih value).mono fun _ _ possible _ h => possible _ (h value)
  | pending _ ih => exact fun mask => (ih mask).mono fun _ _ possible _ h => possible _ (h mask)
  | buttonHeld _ ih => exact fun held => (ih held).mono fun _ _ possible _ h => possible _ (h held)

end Dialogue

namespace Cpu
open Microcode

/-! ## The steps of a processor that is awake -/

/-- The calls that push a word. -/
def pushCalls (sp word : UInt16) : List Call :=
  [.write (sp - 1) (highByte word), .tick, .write (sp - 1 - 1) (lowByte word), .tick]

/-- The processor at the beginning of a handler. -/
def serving (cpu : Cpu) (source : Interrupt) : Cpu :=
  { cpu with
    regs := { cpu.regs with sp := cpu.regs.sp - 1 - 1, pc := source.vector }
    cycles := cpu.cycles + 20
    ime := false }

/-- The processor at the end of a step, from what an instruction has left: interrupts that were to be enabled
before the instruction are enabled now, unless it withdrew that. -/
def settled (cpu after : Cpu) : Cpu :=
  if cpu.enabling && after.enabling then { after with ime := true, enabling := false } else after

/-- **The steps of a processor that is awake**, without the poll that begins a step. -/
inductive Turn (cpu : Cpu) : List Call → Outcome → Prop where
  | overlooked (served : cpu.ime = true) : Turn cpu [] (finish cpu.cycles .overlook cpu)
  | dispatched (source : Interrupt) (served : cpu.ime = true) :
    Turn cpu (.acknowledge source :: .tick :: .tick :: (pushCalls cpu.regs.sp cpu.regs.pc ++ [.tick]))
      (finish cpu.cycles (.dispatch source) (cpu.serving source))
  | failed (opcode : UInt8) (unnamed : Instruction.decode opcode = none) :
    Turn cpu [.read cpu.regs.pc opcode, .tick]
      (cpu.fetched.fail (.illegalOpcode opcode cpu.regs.pc) (.execute cpu.regs.pc opcode cpu.fetched))
  | executed (opcode : UInt8) {instruction : Instruction} {calls : List Call} {after : Cpu}
    (named : Instruction.decode opcode = some instruction)
    (performed : (instruction.perform cpu.fetched).Possible calls ((), after)) :
    Turn cpu (.read cpu.regs.pc opcode :: .tick :: calls)
      (finish cpu.cycles (.execute cpu.regs.pc opcode cpu.fetched) (cpu.settled after))

theorem turn_instruct (cpu : Cpu) : cpu.instruct.Meets cpu.Turn := by
  refine cpu.meets_fetch.bind fun calls out done => ?_
  obtain ⟨opcode, fetched⟩ := out
  obtain ⟨rfl, rfl⟩ := done
  cases named : Instruction.decode opcode with
  | none =>
    simp only [Microcode.execute, named]
    exact .failed opcode named
  | some instruction =>
    have performed : (Microcode.execute opcode cpu.fetched).Meets fun calls out =>
        out.1 = some () ∧ (instruction.perform cpu.fetched).Possible calls ((), out.2) :=
      meets_execute named ((instruction.perform cpu.fetched).meets_possible.mono
        fun _ _ possible => ⟨rfl, possible⟩)
    refine performed.bind fun more out done => ?_
    obtain ⟨result, after⟩ := out
    obtain ⟨rfl, possible⟩ := done
    have turn : cpu.Turn ([.read cpu.regs.pc opcode, .tick] ++ (more ++ []))
        (finish cpu.cycles (.execute cpu.regs.pc opcode cpu.fetched) (cpu.settled after)) := by
      rw [List.append_nil]
      exact .executed opcode named possible
    unfold settled at turn
    dsimp only
    split at turn <;> rename_i wish
    · rw [if_pos wish]
      exact turn
    · rw [if_neg wish]
      exact turn

theorem turn_proceed (cpu : Cpu) : cpu.proceed.Meets cpu.Turn := by
  intro mask
  dsimp only
  split
  · rename_i waits
    have served : cpu.ime = true := by
      rw [Bool.and_eq_true] at waits
      exact waits.1
    split
    · exact .dispatched _ served
    · exact .overlooked served
  · exact cpu.turn_instruct

/-! ## All steps -/

/-- **The steps of a processor.** -/
inductive Step (cpu : Cpu) : List Call → Outcome → Prop where
  | refused {fault : Fault} (faulty : cpu.fault = some fault) : Step cpu [] ⟨.error fault, cpu, .refuse⟩
  | halted (healthy : cpu.fault = none) (halted : cpu.state = .halted) {state : RunState}
    (later : state = .halted ∨ state = .running) :
    Step cpu [.poll, .tick] (finish cpu.cycles .wait { cpu with cycles := cpu.cycles + 4, state := state })
  | stopped (healthy : cpu.fault = none) (stopped : cpu.state = .stopped) :
    Step cpu [.poll, .tick] (finish cpu.cycles .wait { cpu with cycles := cpu.cycles + 4 })
  | awake (healthy : cpu.fault = none) (awake : cpu.state = .running) {calls : List Call}
    {outcome : Outcome} (turn : cpu.Turn calls outcome) : Step cpu (.poll :: calls) outcome
  | woken (healthy : cpu.fault = none) (stopped : cpu.state = .stopped) {calls : List Call}
    {outcome : Outcome} (turn : Turn { cpu with state := .running } calls outcome) :
    Step cpu (.poll :: calls) outcome

/-- **There are no others**, whatever the bus answers. -/
theorem steps_step (cpu : Cpu) : cpu.step.Meets cpu.Step := by
  unfold step
  split
  · rename_i fault faulty
    exact .refused faulty
  rename_i healthy
  split
  · rename_i awake
    exact cpu.turn_proceed.mono fun _ _ turn => .awake healthy awake turn
  · rename_i halted
    intro mask
    dsimp only
    split
    · have same : ({ cpu with cycles := cpu.cycles + 4, state := .halted } : Cpu) =
          { cpu with cycles := cpu.cycles + 4 } := by rw [← halted]
      rw [← same]
      exact .halted healthy halted (.inl rfl)
    · exact .halted healthy halted (.inr rfl)
  · rename_i stopped
    intro held
    dsimp only
    split
    · exact (turn_proceed _).mono fun _ _ turn => .woken healthy stopped turn
    · exact .stopped healthy stopped

end Cpu
end DotMatrix
