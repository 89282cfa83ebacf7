import DotMatrix.Proofs.Cpu.Dispatching

/-! # One byte, twice

The byte behind a HALT that could not wait is read as an opcode, and then once more.  This is as if the
program had that byte twice, the first time one address earlier.  Here the two are put side by side: the step
of the processor that is to read a byte twice, and on a memory with the byte doubled the step of one that is
not.  They make the same calls behind the opcode, by the rule for buses that cannot be told apart
(`Agreement`), and so whatever the instruction does with the program counter, the outcome is the same
(`Cpu.doubling`).
-/
namespace DotMatrix

/-! ## A cell that is not used -/

namespace Flat

/-- Memories that differ at one cell at most. -/
structure Apart (cell : UInt16) (left right : Flat) : Prop where
  same : ∀ address, address ≠ cell → left.peek address = right.peek address
  ticks : left.ticks = right.ticks
  held : left.held = right.held

variable {cell : UInt16} {left right : Flat}

theorem Apart.poke (apart : Apart cell left right) (stored : UInt16) (value : UInt8) :
    Apart cell (left.poke stored value) (right.poke stored value) where
  same address fair := by rw [peek_poke, peek_poke, apart.same address fair]
  ticks := apart.ticks
  held := apart.held

/-- **A cell that is not used is not noticed**, if it is none of the two in which interrupts are looked up. -/
theorem agreement_apart (unrequested : cell ≠ 0xFF0F) (unenabled : cell ≠ 0xFFFF) :
    Agreement (Apart cell) (· ≠ cell) where
  read apart address fair := ⟨apart.same address fair, apart⟩
  write apart stored _ value := apart.poke stored value
  tick apart := ⟨apart.same, congrArg (· + 1) apart.ticks, apart.held⟩
  pending {left right} apart := by
    show left.peek 0xFFFF &&& left.peek 0xFF0F &&& 0x1F = right.peek 0xFFFF &&& right.peek 0xFF0F &&& 0x1F
    rw [apart.same 0xFFFF unenabled.symm, apart.same 0xFF0F unrequested.symm]
  acknowledge {left right} apart source := by
    show Apart cell (left.poke 0xFF0F (left.peek 0xFF0F &&& _)) (right.poke 0xFF0F (right.peek 0xFF0F &&& _))
    rw [apart.same 0xFF0F unrequested.symm]
    exact apart.poke ..
  poll apart := apart
  buttonHeld apart := apart.held
  resetDivider apart := apart

/-- The memory in which the byte at an address stands one address earlier as well. -/
def doubled (flat : Flat) (address : UInt16) : Flat := flat.poke (address - 1) (flat.peek address)

theorem apart_doubled (flat : Flat) (address : UInt16) :
    Apart (address - 1) flat (flat.doubled address) where
  same other fair := by rw [doubled, peek_poke, if_neg fair.symm]
  ticks := rfl
  held := rfl

end Flat

/-! ## Data and program -/

namespace Instruction

/-- The calls of a step behind the opcode and the operands of an instruction: those for its data. -/
def dataCalls (instruction : Instruction) (calls : List Call) : List Call :=
  calls.drop (3 + 2 * instruction.operandBytes)

theorem operandBytes_le (instruction : Instruction) : instruction.operandBytes ≤ 2 := by
  unfold operandBytes
  split <;> decide

end Instruction

theorem Dialogue.length_readCalls (address : UInt16) (bytes : List UInt8) :
    (readCalls address bytes).length = 2 * bytes.length := by
  induction bytes generalizing address with
  | nil => rfl
  | cons byte bytes ih => rw [readCalls, List.length_cons, List.length_cons, ih, List.length_cons, Nat.mul_succ]

/-- The operands are read from where the opcode was read and from the next address, never from one before. -/
theorem Dialogue.within_readCalls (address : UInt16) {bytes : List UInt8} (few : bytes.length ≤ 2) :
    Within (· ≠ address - 1) (readCalls address bytes) := by
  have here : address ≠ address - 1 := by grind
  have next : address + 1 ≠ address - 1 := by grind
  match bytes, few with
  | [], _ => exact nofun
  | [_], _ => simp [readCalls, Within, Call.address?, here]
  | [_, _], _ => simp [readCalls, Within, Call.address?, here, next]

namespace Cpu
open Microcode

/-- The processor one address earlier, with no byte to be read twice. -/
def stepBack (cpu : Cpu) : Cpu :=
  { cpu with
    regs := { cpu.regs with pc := cpu.regs.pc - 1 }
    haltBug := false }

/-- **A byte is read twice as if it were there twice**: a step on a memory, and beside it the step that begins
one address earlier, on the memory with the byte doubled. -/
structure Doubles (cpu : Cpu) (memory : Flat) (instruction : Instruction) : Prop where
  /-- Behind the opcode the calls are the same.  The first byte of the operands is the opcode once more. -/
  calls : ∃ operands data, operands.length = instruction.operandBytes ∧
    (∀ first ∈ operands.head?, first = memory.peek cpu.regs.pc) ∧
    (cpu.step.record memory).1 = .poll :: .read cpu.regs.pc (memory.peek cpu.regs.pc) :: .tick ::
      (Dialogue.readCalls cpu.regs.pc operands ++ data) ∧
    (cpu.stepBack.step.record (memory.doubled cpu.regs.pc)).1 =
      .poll :: .read (cpu.regs.pc - 1) (memory.peek cpu.regs.pc) :: .tick ::
        (Dialogue.readCalls cpu.regs.pc operands ++ data)
  /-- Both succeed, and they take the same time. -/
  result : ∃ spent, (cpu.step.run memory).1.result = .ok spent ∧
    (cpu.stepBack.step.run (memory.doubled cpu.regs.pc)).1.result = .ok spent
  /-- The processors are equal, the program counter included. -/
  after : (cpu.step.run memory).1.cpu = (cpu.stepBack.step.run (memory.doubled cpu.regs.pc)).1.cpu
  /-- So are the memories, but for the first of the two bytes. -/
  memory : (cpu.step.run memory).2.Apart (cpu.regs.pc - 1)
    (cpu.stepBack.step.run (memory.doubled cpu.regs.pc)).2

variable {cpu : Cpu} {memory : Flat}

/-- Behind the fetch of the opcode nothing tells the two processors apart. -/
theorem fetched_stepBack (bug : cpu.haltBug = true) : cpu.stepBack.fetched = cpu.fetched := by
  obtain ⟨regs, ime, state, cycles, enabling, haltBug, fault⟩ := cpu
  obtain rfl : haltBug = true := bug
  have back : regs.pc - 1 + 1 = regs.pc := by grind
  simp [stepBack, fetched, back]

/-- The step of a processor that has no interrupt to serve, on plain memory. -/
theorem record_of_named (healthy : cpu.fault = none) (awake : cpu.state = .running)
    (quiet : cpu.ime = false ∨ memory.pending = 0) {instruction : Instruction}
    (named : Instruction.decode (memory.peek cpu.regs.pc) = some instruction) :
    let performed := (instruction.perform cpu.fetched).record memory.tick
    cpu.step.record memory = (.poll :: .read cpu.regs.pc (memory.peek cpu.regs.pc) :: .tick :: performed.1,
      finish cpu.cycles (.execute cpu.regs.pc (memory.peek cpu.regs.pc) cpu.fetched)
        (cpu.settled performed.2.1.2), performed.2.2) := by
  intro performed
  rw [record_step healthy awake quiet, record_instruct_of_named named]
  rfl

/-- The step of a processor that has nothing to do but an instruction. -/
theorem record_of_plain (healthy : cpu.fault = none) (awake : cpu.state = .running) (off : cpu.ime = false)
    (unwanted : cpu.enabling = false) {instruction : Instruction}
    (named : Instruction.decode (memory.peek cpu.regs.pc) = some instruction) :
    let performed := (instruction.perform cpu.fetched).record memory.tick
    cpu.step.record memory = (.poll :: .read cpu.regs.pc (memory.peek cpu.regs.pc) :: .tick :: performed.1,
      finish cpu.cycles (.execute cpu.regs.pc (memory.peek cpu.regs.pc) cpu.fetched) performed.2.1.2,
      performed.2.2) := by
  intro performed
  have settled : cpu.settled performed.2.1.2 = performed.2.1.2 := if_neg (by simp [unwanted])
  rw [record_of_named healthy awake (.inl off) named, settled]

/-- What an instruction reads of the program behind its opcode, when that is read twice. -/
theorem exists_operands (memory : Flat) (bug : cpu.haltBug = true) (instruction : Instruction) :
    ∃ operands data, operands.length = instruction.operandBytes ∧
      (∀ first ∈ operands.head?, first = memory.peek cpu.regs.pc) ∧
      ((instruction.perform cpu.fetched).record memory.tick).1 =
        Dialogue.readCalls cpu.regs.pc operands ++ data := by
  have start : cpu.fetched.regs.pc = cpu.regs.pc := if_pos bug
  rw [instruction.perform_of_plain rfl, Dialogue.record_bind, start]
  obtain ⟨length, calls⟩ :=
    (Dialogue.meets_readFrom instruction.operandBytes cpu.regs.pc).of_record memory.tick
  refine ⟨_, _, length, fun first member => ?_, congrArg (· ++ _) calls⟩
  cases count : instruction.operandBytes with
  | zero =>
    rw [count] at member
    cases member
  | succ more =>
    rw [count, Dialogue.readFrom] at member
    simp only [Dialogue.record, Dialogue.record_bind, List.head?_cons, Option.mem_some_iff] at member
    exact member.symm

/-- If its data avoid the address before the program counter, an instruction avoids it altogether. -/
theorem within_of_data (bug : cpu.haltBug = true) {instruction : Instruction} {opcode : UInt8}
    (spared : Within (· ≠ cpu.regs.pc - 1) (instruction.dataCalls (.poll :: .read cpu.regs.pc opcode :: .tick ::
      ((instruction.perform cpu.fetched).record memory.tick).1))) :
    Within (· ≠ cpu.regs.pc - 1) ((instruction.perform cpu.fetched).record memory.tick).1 := by
  obtain ⟨operands, data, length, -, calls⟩ := exists_operands memory bug instruction
  have program : Within (· ≠ cpu.regs.pc - 1) (Dialogue.readCalls cpu.regs.pc operands) :=
    Dialogue.within_readCalls _ (length ▸ instruction.operandBytes_le)
  have rest :
      (Dialogue.readCalls cpu.regs.pc operands ++ data).drop (2 * instruction.operandBytes) = data := by
    rw [← length, ← Dialogue.length_readCalls, List.drop_left]
  rw [Instruction.dataCalls, ← List.drop_drop, List.drop_succ_cons, List.drop_succ_cons, List.drop_succ_cons,
    List.drop_zero, calls, rest] at spared
  rw [calls]
  exact fun call member => (List.mem_append.mp member).elim (program call) (spared call)

/-- **One step.** -/
theorem Coherent.doubles (coherent : cpu.Coherent) (bug : cpu.haltBug = true) {instruction : Instruction}
    (named : Instruction.decode (memory.peek cpu.regs.pc) = some instruction)
    (unrequested : cpu.regs.pc - 1 ≠ 0xFF0F) (unenabled : cpu.regs.pc - 1 ≠ 0xFFFF)
    (spared : Within (· ≠ cpu.regs.pc - 1) (instruction.dataCalls (cpu.step.record memory).1)) :
    cpu.Doubles memory instruction := by
  obtain ⟨running, off, unwanted, healthy⟩ := coherent.haltBug bug
  have talk := record_of_plain healthy running off unwanted named
  -- The other step begins with the same opcode, and from there on the processor is the same.
  have twice : (memory.doubled cpu.regs.pc).peek cpu.stepBack.regs.pc = memory.peek cpu.regs.pc :=
    (Flat.peek_poke ..).trans (if_pos rfl)
  have talk' := @record_of_plain cpu.stepBack (memory.doubled cpu.regs.pc) healthy running off unwanted
    instruction (twice.symm ▸ named)
  rw [fetched_stepBack bug, twice] at talk'
  rw [talk] at spared
  -- So it is one dialogue, held on two memories that differ where it does not look.
  have agreement := Flat.agreement_apart unrequested unenabled
  obtain ⟨calls, result, buses⟩ := agreement.record (instruction.perform cpu.fetched)
    (agreement.tick (memory.apart_doubled cpu.regs.pc)) (within_of_data bug spared)
  constructor
  case calls =>
    obtain ⟨operands, data, length, first, program⟩ := exists_operands memory bug instruction
    rw [talk, talk']
    exact ⟨operands, data, length, first, congrArg (_ :: _ :: _ :: ·) program,
      congrArg (_ :: _ :: _ :: ·) (calls.symm.trans program)⟩
  case result =>
    rw [← Dialogue.record_snd, ← Dialogue.record_snd, talk, talk']
    exact ⟨_, rfl, congrArg (fun out : Unit × Cpu => Except.ok (out.2.cycles - cpu.cycles)) result.symm⟩
  case after =>
    rw [← Dialogue.record_snd, ← Dialogue.record_snd, talk, talk']
    exact congrArg Prod.snd result
  case memory =>
    rw [← Dialogue.record_snd, ← Dialogue.record_snd, talk, talk']
    exact buses

/-- **The byte behind a HALT that could not wait is doubled, and nothing else happens.**  In every run, on
every bus: when a byte is to be read twice, a step on any plain memory with a legal opcode there is the same
as a step one address earlier with the byte doubled, as long as the instruction makes no use of that address. -/
theorem doubling {β : Type} [Bus β] (course : Course β) (n : Nat) (memory : Flat) {instruction : Instruction}
    (bug : (course.cpu n).haltBug = true)
    (named : Instruction.decode (memory.peek (course.cpu n).regs.pc) = some instruction)
    (unrequested : (course.cpu n).regs.pc - 1 ≠ 0xFF0F) (unenabled : (course.cpu n).regs.pc - 1 ≠ 0xFFFF)
    (spared : Within (· ≠ (course.cpu n).regs.pc - 1)
      (instruction.dataCalls ((course.cpu n).step.record memory).1)) :
    (course.cpu n).Doubles memory instruction :=
  (course.coherent n).doubles bug named unrequested unenabled spared

/-- HALT as the first instruction of a run, with an interrupt pending, and then a CALL, whose opcode is the low
byte of the address that it calls as well. -/
theorem doubling_call :
    let course := Course.closed (⟨0x76, 0x01, 1⟩ : Bell)
    let memory := ({} : Flat).poke 0x0001 0xCD
    (course.cpu 1).haltBug = true ∧ (course.cpu 1).regs.pc = 0x0001 ∧
      (course.cpu 1).Doubles memory .call := by
  intro course memory
  have bug : (course.cpu 1).haltBug = true := by decide
  have start : (course.cpu 1).regs.pc = 0x0001 := by decide
  have stack : (course.cpu 1).regs.sp = 0x0000 := by decide
  have named : Instruction.decode (memory.peek (course.cpu 1).regs.pc) = some .call := by
    rw [start, Flat.peek_poke, if_pos rfl]
    rfl
  refine ⟨bug, start, doubling course 1 memory bug named ?_ ?_ ?_⟩
  · rw [start]
    decide
  · rw [start]
    decide
  · rw [record_of_plain (by decide) (by decide) (by decide) (by decide) named, start]
    show Within _ [.tick, .write ((course.cpu 1).regs.sp - 1) _, .tick,
      .write ((course.cpu 1).regs.sp - 1 - 1) _, .tick]
    have below : (0x0000 : UInt16) - 1 - 1 = 0xFFFE := by decide
    rw [stack, below]
    simp [Within, Call.address?]

end Cpu
end DotMatrix
