import DotMatrix.Cpu.Microcode
import DotMatrix.Journal

/-! # Steps

A step is one instruction, one dispatch of an interrupt, or one idle M-cycle while the processor
waits. Interrupts are looked at between steps only, so one that an instruction makes pending is the
whole of the next step.

A step is a dialogue, and so the same for every bus. Its outcome says what it cost or which fault
ended it, the processor afterwards, and what was done.
-/
namespace DotMatrix

/-- What a step was. -/
inductive Deed where
  /-- Nothing: a fault had stopped the processor before. -/
  | refuse
  /-- One M-cycle of waiting. -/
  | wait
  /-- Nothing: the bus reported an interrupt, but none of the five sources. -/
  | overlook
  | dispatch (source : Interrupt)
  /-- The instruction whose opcode was fetched from `address`, with the processor as it was between
  the fetch and the execution. -/
  | execute (address : UInt16) (opcode : UInt8) (fetched : Cpu)
  deriving DecidableEq

/-- How a step ended. -/
structure Outcome where
  /-- T-cycles spent, or the fault. -/
  result : Except Fault Nat
  cpu : Cpu
  deed : Deed

namespace Microcode

/-- Serve an interrupt: push the program counter and go on at the handler, with interrupts off. -/
def dispatch (source : Interrupt) : Microcode Unit := do
  setIme false
  acknowledge source
  idle
  idle
  pushWord (← look Registers.pc)
  goTo source.vector
  idle

/-- Carry out the instruction that `opcode` names; `none` if it names none. -/
def execute (opcode : UInt8) : Microcode (Option Unit) :=
  match Instruction.decode opcode with
  | some instruction => do
    instruction.perform
    return some ()
  | none => return none

end Microcode

namespace Cpu
open Microcode

/-- The end of a step that went well and began when `start` cycles had passed. -/
def finish (start : Nat) (deed : Deed) (cpu : Cpu) : Outcome :=
  ⟨.ok (cpu.cycles - start), cpu, deed⟩

/-- Stop for good. -/
def fail (cpu : Cpu) (fault : Fault) (deed : Deed) : Outcome :=
  ⟨.error fault, { cpu with state := .stopped, fault := some fault }, deed⟩

/-- Fetch an opcode and carry it out. Interrupts that were to be enabled before this instruction are
enabled after it, unless it withdrew that. -/
def instruct (cpu : Cpu) : Dialogue Outcome := do
  let (opcode, fetched) ← fetch cpu
  let deed := .execute cpu.regs.pc opcode fetched
  match ← Microcode.execute opcode fetched with
  | (none, after) => return after.fail (.illegalOpcode opcode cpu.regs.pc) deed
  | (some (), after) =>
    if cpu.enabling && after.enabling then
      return finish cpu.cycles deed { after with ime := true, enabling := false }
    else return finish cpu.cycles deed after

/-- A step of a processor that is awake: if an interrupt waits and may be served, that, or else an
instruction. What waits is looked up among the five sources; a bus that reports something else makes
the step an empty one. -/
def proceed (cpu : Cpu) : Dialogue Outcome :=
  .pending fun mask =>
    if cpu.ime && mask != 0 then
      match Interrupt.highest? mask with
      | some source => do
        let (_, after) ← dispatch source cpu
        return finish cpu.cycles (.dispatch source) after
      | none => return finish cpu.cycles .overlook cpu
    else cpu.instruct

/-- Let one M-cycle pass. -/
def idle (cpu : Cpu) (next : Cpu → Dialogue Outcome) : Dialogue Outcome :=
  .tick (next { cpu with cycles := cpu.cycles + 4 })

/-- **One step.** After a fault there is none: the fault is reported again and the bus is left
alone. Otherwise buttons are sampled first. A halted processor lets an M-cycle pass and wakes if an
interrupt is pending then; a stopped one lets an M-cycle pass unless a button is held. -/
def step (cpu : Cpu) : Dialogue Outcome :=
  match cpu.fault with
  | some fault => .done ⟨.error fault, cpu, .refuse⟩
  | none => .poll <|
    match cpu.state with
    | .running => cpu.proceed
    | .halted =>
      cpu.idle fun after => .pending fun mask =>
        .done (finish cpu.cycles .wait
          (if mask == 0 then after else { after with state := .running }))
    | .stopped => .buttonHeld fun held =>
      if held then { cpu with state := .running }.proceed
      else cpu.idle fun after => .done (finish cpu.cycles .wait after)

end Cpu

namespace Outcome

/-- The lines a step writes: one for a fetched opcode, and one for a fault that is new. -/
def log (outcome : Outcome) (journal : Journal) : Journal :=
  match outcome.deed with
  | .execute address opcode fetched =>
    let journal := journal.write .trace fun _ =>
      Text.hexWord address ++ ": " ++ Text.hexByte opcode ++ "  " ++ fetched.summary
    match outcome.result with
    | .error fault => journal.write .error fun _ =>
        fault.message ++ "; CPU stopped (" ++ fetched.summary ++ ")"
    | .ok _ => journal
  | _ => journal

end Outcome
end DotMatrix
