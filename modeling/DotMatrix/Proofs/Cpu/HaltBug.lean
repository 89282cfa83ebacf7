import DotMatrix.Proofs.Cpu.Enabling
import DotMatrix.Proofs.Cpu.Operands
import DotMatrix.Proofs.Cpu.Steps

/-! # The byte that is read twice

After a HALT that could not wait the next byte of the program is read twice.  What is pending then must not
meet anything but the fetch of an opcode: no dispatch, no wake-up, no fault, and no second byte of an
instruction.  It does not, because only a HALT with interrupts off for good leaves it behind, and because of
what a step finds when it begins (`Coherent`), which every step passes on to the next (`Coherent.step`).
-/
namespace DotMatrix

/-! ## What leaves it behind -/

namespace Microcode
variable {α γ : Type}

/-- `code` does not ask for a byte to be read twice. -/
class Calm (code : Microcode α) : Prop where
  calm : ∀ cpu, cpu.haltBug = false → (code cpu).Meets fun _ out => out.2.haltBug = false

instance (code : Microcode α) (next : α → Microcode γ) [first : Calm code]
    [second : ∀ value, Calm (next value)] : Calm (code >>= next) where
  calm cpu plain := (first.calm cpu plain).bind fun _ out done => (second out.1).calm out.2 done

instance (value : α) : Calm (pure value : Microcode α) := ⟨fun _ plain => plain⟩

instance (condition : Prop) [Decidable condition] (yes no : Microcode α) [Calm yes] [Calm no] :
    Calm (if condition then yes else no) := by
  split <;> infer_instance

instance : Calm idle := ⟨fun _ plain => plain⟩

instance (address : UInt16) : Calm (load address) := ⟨fun _ plain _ => plain⟩

instance (address : UInt16) (value : UInt8) : Calm (store address value) := ⟨fun _ plain => plain⟩

instance : Calm resetDivider := ⟨fun _ plain => plain⟩

instance (view : Registers → α) : Calm (look view) := ⟨fun _ plain => plain⟩

instance (update : Registers → Registers) : Calm (change update) := ⟨fun _ plain => plain⟩

instance (state : RunState) : Calm (setState state) := ⟨fun _ plain => plain⟩

instance (on : Bool) : Calm (setIme on) := ⟨fun _ plain => plain⟩

instance (on : Bool) : Calm (setEnabling on) := ⟨fun _ plain => plain⟩

instance : Calm fetch where
  calm cpu plain := by
    rw [fetch_of_plain plain]
    exact fun _ => plain

instance : Calm fetchWord := by unfold fetchWord; infer_instance

instance (word : UInt16) : Calm (pushWord word) := by unfold pushWord; infer_instance

instance : Calm popWord := by unfold popWord; infer_instance

instance (flags : Flags) : Calm (setFlags flags) := by unfold setFlags; infer_instance

instance (result : UInt8 × Flags) : Calm (setResult result) := by unfold setResult; infer_instance

instance (address : UInt16) : Calm (goTo address) := by unfold goTo; infer_instance

instance (operation : ByteOperation) (value : UInt8) : Calm (combineA operation value) := by
  unfold combineA; infer_instance

instance (offset : UInt8) : Calm (jumpBy offset) := by unfold jumpBy; infer_instance

instance (target : UInt16) : Calm (jumpTo target) := by unfold jumpTo; infer_instance

instance (target : UInt16) : Calm (callTo target) := by unfold callTo; infer_instance

instance : Calm returnToCaller := by unfold returnToCaller; infer_instance

instance (place : Place) : Calm place.get := by
  cases place <;> simp only [Place.get] <;> infer_instance

instance (place : Place) (value : UInt8) : Calm (place.set value) := by
  cases place <;> simp only [Place.set] <;> infer_instance

instance (pointer : Pointer) : Calm pointer.take := by
  cases pointer <;> simp only [Pointer.take] <;> infer_instance

instance (instruction : BitInstruction) : Calm instruction.perform := by
  cases instruction <;> simp only [BitInstruction.perform] <;> infer_instance

theorem calm_perform {instruction : Instruction} (noHalt : instruction ≠ .halt) :
    Calm instruction.perform := by
  cases instruction <;> first | contradiction | (simp only [Instruction.perform]; infer_instance)

/-- A HALT that could not wait: interrupts are off, and not about to be enabled. -/
structure Unwaited (cpu after : Cpu) : Prop where
  ime : cpu.ime = false
  enabling : cpu.enabling = false
  same : after = { cpu with haltBug := true }

/-- **Only a HALT that could not wait** has a byte read twice. -/
theorem unwaited_perform (instruction : Instruction) {cpu : Cpu} (plain : cpu.haltBug = false) :
    (instruction.perform cpu).Meets fun _ out =>
      out.2.haltBug = true → instruction = .halt ∧ Unwaited cpu out.2 := by
  by_cases halts : instruction = .halt
  · subst halts
    intro waiting
    show (if _ then _ else if _ then _ else _ : Cpu).haltBug = true →
      _ ∧ Unwaited cpu (if _ then _ else if _ then _ else _)
    split
    · exact fun bug => absurd (plain.symm.trans bug) Bool.false_ne_true
    · rename_i waits
      rw [Bool.or_eq_true, not_or, Bool.not_eq_true] at waits
      split
      · exact fun bug => absurd (plain.symm.trans bug) Bool.false_ne_true
      · rename_i unwanted
        exact fun _ => ⟨rfl, waits.1, Bool.eq_false_iff.mpr unwanted, rfl⟩
  · refine ((calm_perform halts).calm cpu plain).mono fun _ out done bug => ?_
    rw [done] at bug
    cases bug

theorem fault_perform (instruction : Instruction) (cpu : Cpu) :
    (instruction.perform cpu).Meets fun _ out => out.2.fault = cpu.fault :=
  ((inferInstance : Works true instruction.perform).work cpu).mono fun _ _ done => done.fault_eq

/-- A PUSH writes the high byte first. -/
theorem calls_push (pair : StackPair) (cpu : Cpu) : ((Instruction.push pair).perform cpu).Meets fun calls _ =>
    calls = .tick :: Cpu.pushCalls cpu.regs.sp (pair.get cpu.regs) :=
  rfl

end Microcode

theorem Instruction.eq_of_decode_halt : ∀ opcode : UInt8, decode opcode = some halt → opcode = 0x76 :=
  forall_byte (by decide +kernel)

/-! ## From step to step -/

namespace Cpu
open Microcode

section
variable {cpu : Cpu} {calls : List Call} {outcome : Outcome}

/-- **What a step finds when it begins.** -/
structure Coherent (cpu : Cpu) : Prop where
  fault : cpu.fault ≠ none → cpu.state = .stopped
  haltBug : cpu.haltBug = true →
    cpu.state = .running ∧ cpu.ime = false ∧ cpu.enabling = false ∧ cpu.fault = none

/-- **What a step leaves for the next one**: if a byte is to be read twice, the step was a HALT. -/
structure Leaves (outcome : Outcome) : Prop where
  coherent : outcome.cpu.Coherent
  halted : outcome.cpu.haltBug = true → ∃ address fetched, outcome.deed = .execute address 0x76 fetched

theorem leaves_of_plain (healthy : outcome.cpu.fault = none) (plain : outcome.cpu.haltBug = false) :
    Leaves outcome where
  coherent := ⟨fun faulty => absurd healthy faulty, fun bug => absurd (plain.symm.trans bug) nofun⟩
  halted bug := absurd (plain.symm.trans bug) nofun

theorem haltBug_settled (cpu after : Cpu) : (cpu.settled after).haltBug = after.haltBug := by
  unfold settled
  split <;> rfl

theorem fault_settled (cpu after : Cpu) : (cpu.settled after).fault = after.fault := by
  unfold settled
  split <;> rfl

theorem leaves_turn (healthy : cpu.fault = none) (awake : cpu.state = .running)
    (plain : cpu.ime = true → cpu.haltBug = false) (turn : cpu.Turn calls outcome) : Leaves outcome := by
  cases turn with
  | overlooked served => exact leaves_of_plain healthy (plain served)
  | dispatched source served => exact leaves_of_plain healthy (plain served)
  | failed opcode unnamed => exact ⟨⟨fun _ => rfl, nofun⟩, nofun⟩
  | executed opcode named performed =>
    rename_i instruction more after
    have sound : after.fault = none := (performed _ (fault_perform instruction cpu.fetched)).trans healthy
    cases bug : after.haltBug with
    | false =>
      exact leaves_of_plain ((fault_settled cpu after).trans sound) ((haltBug_settled cpu after).trans bug)
    | true =>
      obtain ⟨rfl, off, unwanted, rfl⟩ := performed _ (unwaited_perform instruction rfl) bug
      have unwanted : cpu.enabling = false := unwanted
      have same : cpu.settled { cpu.fetched with haltBug := true } = { cpu.fetched with haltBug := true } :=
        if_neg (by simp [unwanted])
      rw [finish, same, Instruction.eq_of_decode_halt opcode named]
      exact ⟨⟨fun faulty => absurd healthy faulty, fun _ => ⟨awake, off, unwanted, healthy⟩⟩,
        fun _ => ⟨_, _, rfl⟩⟩

theorem Coherent.plain (h : cpu.Coherent) (asleep : cpu.state ≠ .running) : cpu.haltBug = false :=
  Bool.eq_false_iff.mpr fun bug => asleep (h.haltBug bug).1

theorem Coherent.plain_of_ime (h : cpu.Coherent) (served : cpu.ime = true) : cpu.haltBug = false :=
  Bool.eq_false_iff.mpr fun bug => absurd (served.symm.trans (h.haltBug bug).2.1) nofun

/-- **Every step leaves what the next one is to find.** -/
theorem Coherent.step (h : cpu.Coherent) (step : cpu.Step calls outcome) : Leaves outcome := by
  cases step with
  | refused faulty =>
    refine ⟨h, fun bug => ?_⟩
    rw [(h.haltBug bug).2.2.2] at faulty
    cases faulty
  | halted healthy halted => exact leaves_of_plain healthy (h.plain (by simp [halted]))
  | stopped healthy stopped => exact leaves_of_plain healthy (h.plain (by simp [stopped]))
  | awake healthy awake turn => exact leaves_turn healthy awake h.plain_of_ime turn
  | woken healthy stopped turn =>
    have plain : cpu.haltBug = false := h.plain (by simp [stopped])
    exact @leaves_turn { cpu with state := .running } _ _ healthy rfl (fun _ => plain) turn

/-! ## What an instruction reads -/

/-- The calls of an instruction begin with those for its operands. -/
theorem operands_perform (instruction : Instruction) (plain : cpu.haltBug = false) :
    (instruction.perform cpu).Meets fun calls _ => ∃ operands rest,
      operands.length = instruction.operandBytes ∧
        calls = Dialogue.readCalls cpu.regs.pc operands ++ rest := by
  rw [instruction.perform_of_plain plain]
  refine (Dialogue.meets_readFrom _ _).bind fun calls operands done => ?_
  obtain ⟨length, rfl⟩ := done
  exact (Dialogue.meets_possible _).mono fun rest _ _ => ⟨operands, rest, length, rfl⟩

/-- **How a step reads an instruction**: the opcode where the program counter stands, and from where it
stands then the operands, one after the other.  Only the opcode may be a byte that is read twice. -/
structure Reads (cpu : Cpu) (calls : List Call) (address : UInt16) (opcode : UInt8) (fetched : Cpu) :
    Prop where
  start : address = cpu.regs.pc
  regs : fetched.regs = { cpu.regs with pc := if cpu.haltBug then address else address + 1 }
  plain : fetched.haltBug = false
  calls : ∀ instruction, Instruction.decode opcode = some instruction → ∃ operands rest,
    operands.length = instruction.operandBytes ∧ calls =
      .poll :: .read address opcode :: .tick :: (Dialogue.readCalls fetched.regs.pc operands ++ rest)
  operands : ∀ instruction, Instruction.decode opcode = some instruction → instruction.perform fetched =
    (Dialogue.readFrom instruction.operandBytes fetched.regs.pc).bind fun operands =>
      instruction.performWith operands (fetched.past instruction.operandBytes)

theorem reads_turn (turn : cpu.Turn calls outcome) {address : UInt16} {opcode : UInt8} {fetched : Cpu}
    (deed : outcome.deed = .execute address opcode fetched) :
    cpu.Reads (.poll :: calls) address opcode fetched := by
  cases turn with
  | overlooked | dispatched => cases deed
  | failed other unnamed =>
    cases deed
    exact ⟨rfl, rfl, rfl, fun _ named => absurd (unnamed.symm.trans named) nofun,
      fun _ named => absurd (unnamed.symm.trans named) nofun⟩
  | executed other named performed =>
    cases deed
    refine ⟨rfl, rfl, rfl, fun instruction named' => ?_, fun other _ => other.perform_of_plain rfl⟩
    obtain rfl := Option.some.inj (named.symm.trans named')
    obtain ⟨operands, rest, length, rfl⟩ := performed _ (operands_perform _ rfl)
    exact ⟨operands, rest, length, rfl⟩

theorem reads_step (step : cpu.Step calls outcome) {address : UInt16} {opcode : UInt8} {fetched : Cpu}
    (deed : outcome.deed = .execute address opcode fetched) : cpu.Reads calls address opcode fetched := by
  cases step with
  | refused | halted | stopped => cases deed
  | awake healthy awake turn => exact reads_turn turn deed
  | woken healthy stopped turn =>
    obtain ⟨start, regs, plain, calls, operands⟩ := reads_turn turn deed
    exact ⟨start, regs, plain, calls, operands⟩

/-- The step after a HALT that could not wait is an instruction. -/
theorem Coherent.execute (h : cpu.Coherent) (bug : cpu.haltBug = true) (step : cpu.Step calls outcome) :
    ∃ opcode fetched, outcome.deed = .execute cpu.regs.pc opcode fetched := by
  obtain ⟨running, off, -, healthy⟩ := h.haltBug bug
  cases step with
  | refused faulty =>
    rw [healthy] at faulty
    cases faulty
  | halted _ asleep | stopped _ asleep | woken _ asleep =>
    rw [running] at asleep
    cases asleep
  | awake _ _ turn =>
    cases turn with
    | overlooked served | dispatched _ served =>
      rw [off] at served
      cases served
    | failed opcode => exact ⟨opcode, _, rfl⟩
    | executed opcode => exact ⟨opcode, _, rfl⟩

theorem calls_turn_of_push {pair : StackPair} (turn : cpu.Turn calls outcome)
    (pushes : outcome.instruction? = some (.push pair)) : ∃ opcode, calls =
      .read cpu.regs.pc opcode :: .tick :: .tick :: pushCalls cpu.regs.sp (pair.get cpu.regs) := by
  cases turn with
  | overlooked | dispatched => cases pushes
  | failed opcode unnamed => exact absurd (unnamed.symm.trans pushes) nofun
  | executed opcode named performed =>
    obtain rfl := Option.some.inj (named.symm.trans pushes)
    have same : pair.get cpu.fetched.regs = pair.get cpu.regs := by cases pair <;> rfl
    rw [performed _ (calls_push pair cpu.fetched), same]
    exact ⟨opcode, rfl⟩

/-- The calls of a step that pushes a pair. -/
theorem calls_of_push {pair : StackPair} (step : cpu.Step calls outcome)
    (pushes : outcome.instruction? = some (.push pair)) : ∃ opcode, calls =
      .poll :: .read cpu.regs.pc opcode :: .tick :: .tick :: pushCalls cpu.regs.sp (pair.get cpu.regs) := by
  cases step with
  | refused | halted | stopped => cases pushes
  | awake _ _ turn | woken _ _ turn =>
    obtain ⟨opcode, rfl⟩ := calls_turn_of_push turn pushes
    exact ⟨opcode, rfl⟩

end

/-! ## Along a run -/

namespace Course
variable {β : Type} [Bus β] (course : Course β)

/-- The calls of step `n`. -/
def calls (n : Nat) : List Call := ((course.cpu n).step.record (course.bus n)).1

theorem step (n : Nat) : (course.cpu n).Step (course.calls n) (course.outcome n) := by
  have step := (steps_step (course.cpu n)).of_record (course.bus n)
  rw [Dialogue.record_snd] at step
  exact step

theorem coherent (n : Nat) : (course.cpu n).Coherent := by
  induction n with
  | zero =>
    rcases course.fresh with new | new
    · rw [new]
      exact ⟨nofun, nofun⟩
    · rw [new]
      exact ⟨nofun, nofun⟩
  | succ n ih =>
    obtain ⟨regs, cycles, next⟩ := course.next n
    have left := (ih.step (course.step n)).coherent
    rw [next]
    exact ⟨left.fault, left.haltBug⟩

/-- **What can be relied on before step `n`**, and in it. -/
structure Reliable (n : Nat) : Prop where
  /-- There is no lower half of F. -/
  flags : (course.cpu n).regs.f &&& 0x0F = 0
  /-- Pushing A and F writes F as it is, and the high byte first. -/
  pushed : course.executed n = some (.push .af) → ∃ opcode, course.calls n =
    [.poll, .read (course.cpu n).regs.pc opcode, .tick, .tick,
      .write ((course.cpu n).regs.sp - 1) (course.cpu n).regs.a, .tick,
      .write ((course.cpu n).regs.sp - 2) (course.cpu n).regs.f, .tick]
  /-- A fault has stopped the processor. -/
  stopped : (course.cpu n).fault ≠ none → (course.cpu n).state = .stopped
  /-- If the next opcode is to be read twice, nothing else is to happen. -/
  quiet : (course.cpu n).haltBug = true → (course.cpu n).state = .running ∧ (course.cpu n).ime = false ∧
    (course.cpu n).enabling = false ∧ (course.cpu n).fault = none
  /-- Then the step is no dispatch but fetches the opcode. -/
  executes : (course.cpu n).haltBug = true →
    ∃ opcode fetched, (course.outcome n).deed = .execute (course.cpu n).regs.pc opcode fetched
  /-- Only the fetch of the opcode leaves the program counter where it was. -/
  reads : ∀ address opcode fetched, (course.outcome n).deed = .execute address opcode fetched →
    (course.cpu n).Reads (course.calls n) address opcode fetched
  /-- Only a HALT leaves behind that the next opcode is to be read twice. -/
  again : (course.cpu (n + 1)).haltBug = true →
    ∃ address fetched, (course.outcome n).deed = .execute address 0x76 fetched

/-- **This holds before and in every step** of every run, on every bus. -/
theorem reliable (n : Nat) : course.Reliable n where
  flags := (course.cpu n).regs.flags.toByte_low
  pushed pushes := by
    obtain ⟨opcode, calls⟩ := calls_of_push (course.step n) pushes
    have below : (course.cpu n).regs.sp - 1 - 1 = (course.cpu n).regs.sp - 2 := by grind
    rw [pushCalls, below, StackPair.get, Registers.af, highByte_wordOf, lowByte_wordOf] at calls
    exact ⟨opcode, calls⟩
  stopped := (course.coherent n).fault
  quiet := (course.coherent n).haltBug
  executes bug := (course.coherent n).execute bug (course.step n)
  reads _ _ _ := reads_step (course.step n)
  again bug := by
    rw [course.succ_eq Cpu.haltBug (fun _ _ _ => rfl)] at bug
    exact ((course.coherent n).step (course.step n)).halted bug

end Course
end Cpu
end DotMatrix
