import DotMatrix.Cpu.Step
import DotMatrix.Proofs.Narrow.Processor

/-! # Steps in registers

A step of the processor with its arithmetic done in registers.  The dialogue with the bus is the same, call
for call, and at its end there is a result: `step_eq` says so before there is any bus.
-/
namespace DotMatrix

/-! ## Dialogues in a row -/

namespace Dialogue
variable {α β γ : Type}

theorem bind_assoc (dialogue : Dialogue α) (next : α → Dialogue β) (last : β → Dialogue γ) :
    (dialogue.bind next).bind last = dialogue.bind fun result => (next result).bind last := by
  induction dialogue with
  | done => rfl
  | buttonHeld rest ih => exact congrArg buttonHeld (funext ih)
  | _ => simp_all [bind]

/-- A dialogue at the end of which there is a result. -/
def whole (dialogue : Dialogue α) : Dialogue (Option α) := dialogue.bind fun result => .done (some result)

theorem whole_bind (dialogue : Dialogue α) (next : α → Dialogue β) :
    (dialogue.bind next).whole = dialogue.bind fun result => (next result).whole :=
  dialogue.bind_assoc next _

end Dialogue

namespace Narrow
open Microcode

/-! ## Instructions -/

/-- Go on with what was computed, if there is a result. -/
def check {α : Type} (result : Option α) (next : α → Microcode Unit) : Microcode (Option Unit) :=
  match result with
  | some value => do
    next value
    return some ()
  | none => return none

/-- Carry out an instruction of the second page. -/
def performBits : BitInstruction → Microcode (Option Unit)
  | .shift kind place => do
    (BitInstruction.shift kind place).perform
    return some ()
  | .test index place => do
    let value ← place.get
    check (testBit index value (← look Registers.flags)) setFlags
  | .clear index place => do
    let value ← place.get
    check (bit index) fun mask => place.set (value &&& ~~~mask)
  | .set index place => do
    let value ← place.get
    check (bit index) fun mask => place.set (value ||| mask)

/-- Combine a byte with A. -/
def combineA (operation : ByteOperation) (value : UInt8) : Microcode (Option Unit) := do
  let regs ← look id
  check (combine operation regs.a value regs.flags.carry) setResult

/-- Carry out an instruction whose opcode has been fetched. -/
def perform : Instruction → Microcode (Option Unit)
  | .bits => do
    let opcode ← fetch
    performBits (BitInstruction.decode opcode)
  | .combine operation source => do combineA operation (← source.get)
  | .combineImmediate operation => do combineA operation (← fetch)
  | .addToHl pair => do
    let regs ← look id
    check (addWord regs.hl (pair.get regs) regs.flags) fun (sum, flags) => do
      change fun regs => { regs.setHl sum with flags := flags }
      idle
  | .addToSp => do
    let offset ← fetch
    check (addSigned (← look Registers.sp) offset) fun (sum, flags) => do
      idle
      idle
      change fun regs => { regs with sp := sum, flags := flags }
  | .copySpToHl => do
    let offset ← fetch
    check (addSigned (← look Registers.sp) offset) fun (sum, flags) => do
      idle
      change fun regs => { regs.setHl sum with flags := flags }
  | .restart slot => check (fit .word (8 * slot)) fun target => callTo (UInt16.ofNat target)
  | other => do
    other.perform
    return some ()

/-- Carry out the instruction that an opcode names, if it names one. -/
def execute (opcode : UInt8) : Microcode (Option (Option Unit)) :=
  match decode opcode with
  | none => return none
  | some none => return some none
  | some (some instruction) => do
    match ← perform instruction with
    | some () => return some (some ())
    | none => return none

/-- Serve an interrupt. -/
def dispatch (source : Interrupt) : Microcode (Option Unit) := do
  setIme false
  acknowledge source
  idle
  idle
  pushWord (← look Registers.pc)
  check (vector source) fun target => do
    goTo target
    idle

/-- Code at the end of which there is a result. -/
def whole {α : Type} (code : Microcode α) : Microcode (Option α) := fun cpu =>
  (code cpu).bind fun (value, cpu) => .done (some value, cpu)

theorem bind_whole {α β : Type} (code : Microcode α) (cpu : Cpu) (next : Option α × Cpu → Dialogue β) :
    (whole code cpu).bind next = (code cpu).bind fun (value, after) => next (some value, after) :=
  Dialogue.bind_assoc ..

theorem performBits_eq (opcode : UInt8) :
    performBits (BitInstruction.decode opcode) = whole (BitInstruction.decode opcode).perform := by
  have small : opcode.toNat / 8 % 8 < 8 := Nat.mod_lt _ (by decide)
  unfold BitInstruction.decode
  dsimp only
  cases Place.ofField opcode.toNat
  all_goals
    split
    · rfl
    · simp only [performBits, testBit_eq small]
      rfl
    · simp only [performBits, bit_eq small]
      rfl
    · simp only [performBits, bit_eq small]
      rfl

theorem combineA_eq (operation : ByteOperation) (value : UInt8) :
    combineA operation value = whole (Microcode.combineA operation value) := by
  unfold combineA
  simp only [combine_eq]
  rfl

/-- Whether an instruction that calls a fixed address calls one of eight. -/
def restartInRange : Instruction → Bool
  | .restart slot => slot < 8
  | _ => true

theorem restartInRange_decode (opcode : UInt8) : (Instruction.decode opcode).all restartInRange = true := by
  revert opcode
  exact forall_byte (by decide +kernel)

theorem perform_eq {instruction : Instruction} (h : restartInRange instruction = true) :
    perform instruction = whole instruction.perform := by
  cases instruction with
  | bits =>
    unfold perform
    simp only [performBits_eq]
    rfl
  | combine operation source =>
    unfold perform
    simp only [combineA_eq]
    cases source <;> rfl
  | combineImmediate operation =>
    unfold perform
    simp only [combineA_eq]
    rfl
  | addToHl pair =>
    unfold perform
    simp only [addWord_eq]
    rfl
  | addToSp =>
    unfold perform
    simp only [addSigned_eq]
    rfl
  | copySpToHl =>
    unfold perform
    simp only [addSigned_eq]
    rfl
  | restart slot =>
    have small : slot < 8 := of_decide_eq_true h
    unfold perform
    dsimp only
    rw [fit_word (by omega)]
    rfl
  | _ => rfl

theorem execute_eq (opcode : UInt8) : execute opcode = whole (Microcode.execute opcode) := by
  have small := restartInRange_decode opcode
  unfold execute Microcode.execute
  rw [decode_eq]
  cases named : Instruction.decode opcode with
  | none => rfl
  | some instruction =>
    rw [named] at small
    dsimp only
    rw [perform_eq small]
    funext cpu
    show (whole instruction.perform cpu).bind _ = ((instruction.perform cpu).bind _).bind _
    rw [bind_whole, Dialogue.bind_assoc]
    rfl

theorem dispatch_eq (source : Interrupt) : dispatch source = whole (Microcode.dispatch source) := by
  unfold dispatch
  rw [vector_eq]
  rfl

/-! ## Steps -/

/-- Fetch an opcode and carry it out. -/
def instruct (cpu : Cpu) : Dialogue (Option Outcome) := do
  let (opcode, fetched) ← fetch cpu
  let deed := .execute cpu.regs.pc opcode fetched
  match ← execute opcode fetched with
  | (none, _) => return none
  | (some none, after) => return some (after.fail (.illegalOpcode opcode cpu.regs.pc) deed)
  | (some (some ()), after) =>
    if cpu.enabling && after.enabling then
      return some (Cpu.finish cpu.cycles deed { after with ime := true, enabling := false })
    else return some (Cpu.finish cpu.cycles deed after)

/-- A step of a processor that is awake. -/
def proceed (cpu : Cpu) : Dialogue (Option Outcome) :=
  .pending fun mask =>
    if cpu.ime && mask != 0 then
      match highest? mask with
      | none => return none
      | some none => return some (Cpu.finish cpu.cycles .overlook cpu)
      | some (some source) => do
        match ← dispatch source cpu with
        | (none, _) => return none
        | (some (), after) => return some (Cpu.finish cpu.cycles (.dispatch source) after)
    else instruct cpu

/-- **One step.** -/
def step (cpu : Cpu) : Dialogue (Option Outcome) :=
  match cpu.fault, cpu.state with
  | none, .running => .poll (proceed cpu)
  | none, .stopped => .poll <| .buttonHeld fun held =>
    if held then proceed { cpu with state := .running }
    else (cpu.idle fun after => .done (Cpu.finish cpu.cycles .wait after)).whole
  | _, _ => cpu.step.whole

theorem instruct_eq (cpu : Cpu) : instruct cpu = cpu.instruct.whole := by
  refine Eq.trans ?_ (Dialogue.whole_bind (fetch cpu) _).symm
  refine congrArg (Dialogue.bind (fetch cpu)) (funext fun (opcode, fetched) => ?_)
  show (execute opcode fetched).bind _ = ((Microcode.execute opcode fetched).bind _).whole
  rw [execute_eq, bind_whole, Dialogue.whole_bind]
  refine congrArg (Dialogue.bind _) (funext fun (ended, after) => ?_)
  cases ended with
  | none => rfl
  | some =>
    show (if cpu.enabling && after.enabling then _ else _) =
      Dialogue.whole (if cpu.enabling && after.enabling then _ else _)
    split <;> rfl

theorem proceed_eq (cpu : Cpu) : proceed cpu = cpu.proceed.whole := by
  refine congrArg Dialogue.pending (funext fun mask => ?_)
  show _ = Dialogue.whole (if cpu.ime && mask != 0 then _ else _)
  split
  · rw [highest?_eq]
    cases Interrupt.highest? mask with
    | none => rfl
    | some source =>
      show (dispatch source cpu).bind _ = ((Microcode.dispatch source cpu).bind _).whole
      rw [dispatch_eq, bind_whole, Dialogue.whole_bind]
      rfl
  · exact instruct_eq cpu

/-- **A step is the same dialogue, and has a result.** -/
theorem step_eq (cpu : Cpu) : step cpu = cpu.step.whole := by
  unfold step
  split
  · rename_i fault state
    unfold Cpu.step
    rw [fault, state, proceed_eq]
    rfl
  · rename_i fault state
    unfold Cpu.step
    rw [fault, state]
    refine congrArg (fun rest => Dialogue.poll (.buttonHeld rest)) (funext fun held => ?_)
    show _ = Dialogue.whole (if held then _ else _)
    rw [proceed_eq]
    split <;> rfl
  · rfl

end Narrow
end DotMatrix
