import DotMatrix.Cpu.Step

/-! # What microcode can do

Microcode is made of few things: an M-cycle, with or without an access, a word to the bus that takes
no time, and changes of the processor that the bus does not see. `Work` lists them, and all microcode
is work (`Works`), which goes down to the pieces by instance search. What holds of every instruction
alike is then proved once, over the list: that the cycle count is four times the M-cycles, and which
parts of the processor only a few instructions touch.
-/
namespace DotMatrix
namespace Microcode
variable {α γ : Type} {gate : Bool}

/-- **Work**: `Work gate before calls after` says that microcode can take the processor from `before`
to `after` and make these calls meanwhile. Only with `gate` set may it say whether interrupts are
served, or withdraw a request. -/
inductive Work (gate : Bool) : Cpu → List Call → Cpu → Prop where
  | idle (cpu : Cpu) : Work gate cpu [.tick] { cpu with cycles := cpu.cycles + 4 }
  | load (cpu : Cpu) (address : UInt16) (value : UInt8) :
    Work gate cpu [.read address value, .tick] { cpu with cycles := cpu.cycles + 4 }
  | store (cpu : Cpu) (address : UInt16) (value : UInt8) :
    Work gate cpu [.write address value, .tick] { cpu with cycles := cpu.cycles + 4 }
  | resetDivider (cpu : Cpu) : Work gate cpu [.resetDivider] cpu
  | settle (cpu : Cpu) (regs : Registers) (state : RunState) (haltBug : Bool) :
    Work gate cpu [] { cpu with regs := regs, state := state, haltBug := haltBug }
  | switch (cpu : Cpu) (ime enabling : Bool) (open_gate : gate = true) :
    Work gate cpu [] { cpu with ime := ime, enabling := enabling }
  | acknowledge (cpu : Cpu) (source : Interrupt) (open_gate : gate = true) :
    Work gate cpu [.acknowledge source] cpu
  | seq {before between after : Cpu} {first second : List Call} :
    Work gate before first between → Work gate between second after →
      Work gate before (first ++ second) after

/-- Work without any effect. -/
theorem Work.rest (cpu : Cpu) : Work gate cpu [] cpu := .settle cpu cpu.regs cpu.state cpu.haltBug

/-- **Work takes four T-cycles for each M-cycle**, and none besides. -/
theorem Work.cycles_eq {before after : Cpu} {calls : List Call} (h : Work gate before calls after) :
    after.cycles = before.cycles + 4 * calls.count .tick := by
  induction h with
  | idle | load | store | settle | switch | resetDivider | acknowledge => rfl
  | seq _ _ first second =>
    rw [second, first, List.count_append]
    omega

/-- Work never stops the processor for good. -/
theorem Work.fault_eq {before after : Cpu} {calls : List Call} (h : Work gate before calls after) :
    after.fault = before.fault := by
  induction h with
  | seq _ _ first second => rw [second, first]
  | _ => rfl

/-- Behind a closed gate neither IME nor a pending wish for it changes. -/
theorem Work.gate_eq {before after : Cpu} {calls : List Call} (h : Work false before calls after) :
    after.ime = before.ime ∧ after.enabling = before.enabling := by
  induction h with
  | switch _ _ _ open_gate => cases open_gate
  | seq _ _ first second => exact ⟨second.1.trans first.1, second.2.trans first.2⟩
  | _ => exact ⟨rfl, rfl⟩

/-! ## All microcode is work -/

/-- `code` does nothing but work, whatever the bus answers. -/
class Works (gate : Bool) (code : Microcode α) : Prop where
  work : ∀ cpu, (code cpu).Meets fun calls out => Work gate cpu calls out.2

instance (code : Microcode α) (next : α → Microcode γ) [first : Works gate code]
    [second : ∀ value, Works gate (next value)] : Works gate (code >>= next) where
  work cpu := (first.work cpu).bind fun _ out done =>
    ((second out.1).work out.2).mono fun _ _ more => .seq done more

instance (value : α) : Works gate (pure value : Microcode α) := ⟨fun cpu => .rest cpu⟩

instance (condition : Prop) [Decidable condition] (yes no : Microcode α) [Works gate yes]
    [Works gate no] : Works gate (if condition then yes else no) := by
  split <;> infer_instance

instance : Works gate idle := ⟨fun cpu => .idle cpu⟩

instance (address : UInt16) : Works gate (load address) := ⟨fun cpu value => .load cpu address value⟩

instance (address : UInt16) (value : UInt8) : Works gate (store address value) :=
  ⟨fun cpu => .store cpu address value⟩

instance : Works gate resetDivider := ⟨fun cpu => .resetDivider cpu⟩

instance (source : Interrupt) : Works true (acknowledge source) :=
  ⟨fun cpu => .acknowledge cpu source rfl⟩

instance (view : Registers → α) : Works gate (look view) := ⟨fun cpu => .rest cpu⟩

instance (update : Registers → Registers) : Works gate (change update) :=
  ⟨fun cpu => .settle cpu (update cpu.regs) cpu.state cpu.haltBug⟩

instance (state : RunState) : Works gate (setState state) :=
  ⟨fun cpu => .settle cpu cpu.regs state cpu.haltBug⟩

instance (on : Bool) : Works true (setIme on) := ⟨fun cpu => .switch cpu on cpu.enabling rfl⟩

instance (on : Bool) : Works true (setEnabling on) := ⟨fun cpu => .switch cpu cpu.ime on rfl⟩

instance : Works gate advance where
  work cpu := by
    show Work gate cpu [] (if _ then _ else _)
    split
    · exact .settle cpu cpu.regs cpu.state false
    · exact .settle cpu { cpu.regs with pc := cpu.regs.pc + 1 } cpu.state cpu.haltBug

instance : Works gate halt where
  work cpu waiting := by
    show Work gate cpu [] (if _ then _ else if _ then _ else _)
    split
    · exact .settle cpu cpu.regs .halted cpu.haltBug
    · split
      · exact .settle cpu { cpu.regs with pc := cpu.regs.pc - 1 } cpu.state cpu.haltBug
      · exact .settle cpu cpu.regs cpu.state true

instance : Works gate fetch := by unfold fetch; infer_instance

instance : Works gate fetchWord := by unfold fetchWord; infer_instance

instance (word : UInt16) : Works gate (pushWord word) := by unfold pushWord; infer_instance

instance : Works gate popWord := by unfold popWord; infer_instance

instance (flags : Flags) : Works gate (setFlags flags) := by unfold setFlags; infer_instance

instance (result : UInt8 × Flags) : Works gate (setResult result) := by
  unfold setResult; infer_instance

instance (address : UInt16) : Works gate (goTo address) := by unfold goTo; infer_instance

instance (operation : ByteOperation) (value : UInt8) : Works gate (combineA operation value) := by
  unfold combineA; infer_instance

instance (offset : UInt8) : Works gate (jumpBy offset) := by unfold jumpBy; infer_instance

instance (target : UInt16) : Works gate (jumpTo target) := by unfold jumpTo; infer_instance

instance (target : UInt16) : Works gate (callTo target) := by unfold callTo; infer_instance

instance : Works gate returnToCaller := by unfold returnToCaller; infer_instance

instance (place : Place) : Works gate place.get := by
  cases place <;> simp only [Place.get] <;> infer_instance

instance (place : Place) (value : UInt8) : Works gate (place.set value) := by
  cases place <;> simp only [Place.set] <;> infer_instance

instance (pointer : Pointer) : Works gate pointer.take := by
  cases pointer <;> simp only [Pointer.take] <;> infer_instance

instance (instruction : BitInstruction) : Works gate instruction.perform := by
  cases instruction <;> simp only [BitInstruction.perform] <;> infer_instance

instance (instruction : Instruction) : Works true instruction.perform := by
  cases instruction <;> simp only [Instruction.perform] <;> infer_instance

instance (opcode : UInt8) : Works true (execute opcode) := by
  unfold execute; split <;> infer_instance

-- A dispatch is longer than any instruction, and so is the search for its pieces.
set_option synthInstance.maxSize 256 in
instance (source : Interrupt) : Works true (dispatch source) := by unfold dispatch; infer_instance

/-- **Three instructions touch IME**; all others are work behind a closed gate. -/
theorem works_perform {instruction : Instruction} (noDi : instruction ≠ .disableInterrupts)
    (noEi : instruction ≠ .enableInterrupts) (noReti : instruction ≠ .retInterrupt) :
    Works false instruction.perform := by
  cases instruction <;> first | contradiction | (simp only [Instruction.perform]; infer_instance)

/-- Executing an opcode that names an instruction is carrying that instruction out. -/
theorem meets_execute {opcode : UInt8} {instruction : Instruction} {cpu : Cpu}
    {p : List Call → Option Unit × Cpu → Prop} (named : Instruction.decode opcode = some instruction)
    (h : (instruction.perform cpu).Meets fun calls out => p calls (some (), out.2)) :
    (execute opcode cpu).Meets p := by
  unfold execute
  rw [named]
  refine h.bind fun calls out done => ?_
  show p (calls ++ []) (some (), out.2)
  rwa [List.append_nil]

end Microcode
end DotMatrix
