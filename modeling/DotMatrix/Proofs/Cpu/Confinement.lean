import DotMatrix.Proofs.Cpu.Doubling
import DotMatrix.Proofs.Cpu.Footprints

/-! # What an instruction leaves alone

A step on plain memory changes no register, no flag and no cell but those in the footprint of its opcode, and
the program counter moves on by the length of the instruction unless that goes elsewhere
(`Cpu.step_stays_within`).  The microcode of each instruction keeps to its footprint, one case for each kind
of instruction (`confined_performWith`); fetch, operands and the end of the step are the same for all.
-/
namespace DotMatrix
namespace Footprint

/-! ## Keeping to a footprint -/

/-- All that is different in the registers is something that a footprint allows. -/
structure Allows (footprint : Footprint) (before after : Registers) : Prop where
  register : ∀ name ∉ footprint.registers, name.get after = name.get before
  flags : footprint.flags = false → after.flags = before.flags
  sp : footprint.sp = false → after.sp = before.sp
  pc : footprint.elsewhere = false → after.pc = before.pc

namespace Allows
variable {footprint : Footprint} {before between after : Registers}

theorem rest : footprint.Allows before before := ⟨fun _ _ => rfl, fun _ => rfl, fun _ => rfl, fun _ => rfl⟩

theorem trans (first : footprint.Allows before between) (second : footprint.Allows between after) :
    footprint.Allows before after where
  register name other := (second.register name other).trans (first.register name other)
  flags same := (second.flags same).trans (first.flags same)
  sp same := (second.sp same).trans (first.sp same)
  pc same := (second.pc same).trans (first.pc same)

theorem set {name : ByteRegister} (listed : name ∈ footprint.registers) (value : UInt8) :
    footprint.Allows before (name.set value before) where
  register other unlisted := by
    have distinct : other ≠ name := fun same => unlisted (same ▸ listed)
    cases name <;> cases other <;> first | contradiction | rfl
  flags _ := by cases name <;> rfl
  sp _ := by cases name <;> rfl
  pc _ := by cases name <;> rfl

theorem setFlags (listed : footprint.flags = true) (flags : Flags) :
    footprint.Allows before { before with flags := flags } where
  register name _ := by cases name <;> rfl
  flags same := absurd same (by simp [listed])
  sp _ := rfl
  pc _ := rfl

theorem setSp (listed : footprint.sp = true) (sp : UInt16) :
    footprint.Allows before { before with sp := sp } where
  register name _ := by cases name <;> rfl
  flags _ := rfl
  sp same := absurd same (by simp [listed])
  pc _ := rfl

theorem setPc (listed : footprint.elsewhere = true) (pc : UInt16) :
    footprint.Allows before { before with pc := pc } where
  register name _ := by cases name <;> rfl
  flags _ := rfl
  sp _ := rfl
  pc same := absurd same (by simp [listed])

theorem setA (listed : .a ∈ footprint.registers) (value : UInt8) :
    footprint.Allows before { before with a := value } :=
  set listed value

theorem setHl (listed : [.h, .l] ⊆ footprint.registers) (word : UInt16) :
    footprint.Allows before (before.setHl word) :=
  (set (listed (List.mem_cons_self ..)) (highByte word)).trans
    (set (listed (List.mem_cons_of_mem _ (List.mem_cons_self ..))) (lowByte word))

theorem setPair {pair : Pair} (listed : pair.registers ⊆ footprint.registers)
    (sp : pair = .sp → footprint.sp = true) (word : UInt16) :
    footprint.Allows before (pair.set word before) := by
  cases pair with
  | bc | de | hl =>
    exact (set (listed (List.mem_cons_self ..)) (highByte word)).trans
      (set (listed (List.mem_cons_of_mem _ (List.mem_cons_self ..))) (lowByte word))
  | sp => exact setSp (sp rfl) word

theorem setStackPair {pair : StackPair} (listed : pair.registers ⊆ footprint.registers)
    (flags : pair = .af → footprint.flags = true) (word : UInt16) :
    footprint.Allows before (pair.set word before) := by
  cases pair with
  | bc | de | hl =>
    exact (set (listed (List.mem_cons_self ..)) (highByte word)).trans
      (set (listed (List.mem_cons_of_mem _ (List.mem_cons_self ..))) (lowByte word))
  | af => exact (set (listed (List.mem_cons_self ..)) (highByte word)).trans (setFlags (flags rfl) _)

end Allows
end Footprint

/-- The address of a store. -/
def Call.stored? : Call → Option UInt16
  | .write address _ => some address
  | _ => none

/-- What is done and what is stored is something that a footprint allows, with its cells at hand. -/
structure Footprint.Confines (footprint : Footprint) (cells : List UInt16) (before : Registers)
    (calls : List Call) (after : Registers) : Prop where
  allows : footprint.Allows before after
  stores : calls.filterMap Call.stored? ⊆ cells

namespace Microcode
open Footprint (Allows)

theorem confines_bits (instruction : BitInstruction) (second third : UInt8) (cpu : Cpu) :
    (instruction.perform cpu).Meets fun calls out => instruction.footprint.Confines
      (instruction.footprint.site.cells second third cpu.regs) cpu.regs calls out.2.regs := by
  cases instruction with
  | shift kind place =>
    cases place with
    | register name =>
      exact ⟨(Allows.set (List.mem_singleton_self name) _).trans (.setFlags rfl _), List.nil_subset _⟩
    | atHl => exact fun value => ⟨.setFlags rfl _, List.Subset.refl _⟩
  | test index place =>
    cases place with
    | register name => exact ⟨.setFlags rfl _, List.nil_subset _⟩
    | atHl => exact fun value => ⟨.setFlags rfl _, List.nil_subset _⟩
  | clear index place | set index place =>
    cases place with
    | register name => exact ⟨.set (List.mem_singleton_self name) _, List.nil_subset _⟩
    | atHl => exact fun value => ⟨.rest, List.Subset.refl _⟩

theorem allows_combine {footprint : Footprint} (operation : ByteOperation)
    (registers : footprint.registers = operation.registers) (flags : footprint.flags = true)
    (value : UInt8) (regs : Registers) :
    let out := operation.apply regs.a value regs.flags.carry
    footprint.Allows regs { regs with a := out.1, flags := out.2 } := by
  intro out
  cases operation with
  | compare => exact .setFlags flags _
  | _ =>
    have listed : .a ∈ footprint.registers := by
      rw [registers]
      exact List.mem_singleton_self _
    exact (Allows.setA listed _).trans (.setFlags flags _)

/-- **Every instruction keeps to its footprint**; where HALT and STOP go on is not for the footprint to say. -/
theorem confined_performWith {instruction : Instruction} (noHalt : instruction ≠ .halt)
    (noStop : instruction ≠ .stop) (second third : UInt8) (cpu : Cpu) :
    (instruction.performWith ([second, third].take instruction.operandBytes) cpu).Meets fun calls out =>
      (instruction.footprint second cpu.regs.flags).Confines
        ((instruction.footprint second cpu.regs.flags).site.cells second third cpu.regs)
        cpu.regs calls out.2.regs := by
  cases instruction with
  | halt | stop => contradiction
  | nop | disableInterrupts | enableInterrupts => exact ⟨.rest, List.nil_subset _⟩
  | bits => exact confines_bits _ second third cpu
  | copy target source =>
    cases target with
    | register name =>
      cases source with
      | register => exact ⟨.set (List.mem_singleton_self name) _, List.nil_subset _⟩
      | atHl => exact fun value => ⟨.set (List.mem_singleton_self name) _, List.nil_subset _⟩
    | atHl =>
      cases source with
      | register => exact ⟨.rest, List.Subset.refl _⟩
      | atHl => exact fun value => ⟨.rest, List.Subset.refl _⟩
  | copyImmediate target =>
    cases target with
    | register name => exact ⟨.set (List.mem_singleton_self name) _, List.nil_subset _⟩
    | atHl => exact ⟨.rest, List.Subset.refl _⟩
  | combine operation source =>
    cases source with
    | register => exact ⟨allows_combine operation rfl rfl _ _, List.nil_subset _⟩
    | atHl => exact fun value => ⟨allows_combine operation rfl rfl _ _, List.nil_subset _⟩
  | combineImmediate operation => exact ⟨allows_combine operation rfl rfl _ _, List.nil_subset _⟩
  | increment place | decrement place =>
    cases place with
    | register name =>
      exact ⟨(Allows.set (List.mem_singleton_self name) _).trans (.setFlags rfl _), List.nil_subset _⟩
    | atHl => exact fun value => ⟨.setFlags rfl _, List.Subset.refl _⟩
  | rotateA | decimalAdjust | complement =>
    exact ⟨(Allows.setA (List.mem_cons_self ..) _).trans (.setFlags rfl _), List.nil_subset _⟩
  | setCarry | flipCarry => exact ⟨.setFlags rfl _, List.nil_subset _⟩
  | storeA pointer =>
    cases pointer with
    | bc | de => exact ⟨.rest, List.Subset.refl _⟩
    | hlUp | hlDown => exact ⟨.setHl (List.Subset.refl _) _, List.Subset.refl _⟩
  | loadA pointer =>
    cases pointer with
    | bc | de => exact fun value => ⟨.setA (List.mem_cons_self ..) value, List.nil_subset _⟩
    | hlUp | hlDown =>
      exact fun value => ⟨(Allows.setHl (List.subset_cons_self ..) _).trans
        (.setA (List.mem_cons_self ..) value), List.nil_subset _⟩
  | storeHigh | storeHighC | storeAbsolute => exact ⟨.rest, List.Subset.refl _⟩
  | loadHigh | loadHighC | loadAbsolute =>
    exact fun value => ⟨.setA (List.mem_cons_self ..) value, List.nil_subset _⟩
  | wordImmediate pair =>
    exact ⟨.setPair (List.Subset.refl _) (fun same => decide_eq_true same) _, List.nil_subset _⟩
  | incrementPair pair | decrementPair pair =>
    exact ⟨.setPair (List.Subset.refl _) (fun same => decide_eq_true same) _, List.nil_subset _⟩
  | addToHl pair =>
    exact ⟨(Allows.setHl (List.Subset.refl _) _).trans (.setFlags rfl _), List.nil_subset _⟩
  | storeSp => exact ⟨.rest, List.Subset.refl _⟩
  | copyHlToSp => exact ⟨.setSp rfl _, List.nil_subset _⟩
  | addToSp =>
    let out := Arithmetic.addSigned cpu.regs.sp second
    exact ⟨(Allows.setSp rfl out.1).trans (.setFlags rfl out.2), List.nil_subset _⟩
  | copySpToHl =>
    exact ⟨(Allows.setHl (List.Subset.refl _) _).trans (.setFlags rfl _), List.nil_subset _⟩
  | push pair => exact ⟨.setSp rfl _, List.Subset.refl _⟩
  | pop pair =>
    intro low high
    exact ⟨(Allows.setSp rfl _).trans
      (.setStackPair (List.Subset.refl _) (fun same => decide_eq_true same) _), List.nil_subset _⟩
  | jumpRelative | jump | jumpHl => exact ⟨.setPc rfl _, List.nil_subset _⟩
  | jumpRelativeIf condition | jumpIf condition =>
    show Dialogue.Meets ((if condition.holds cpu.regs.flags then _ else _ : Microcode Unit) cpu) _
    split <;> rename_i holds
    · exact ⟨.setPc holds _, List.nil_subset _⟩
    · exact ⟨.rest, List.nil_subset _⟩
  | call | restart => exact ⟨(Allows.setSp rfl _).trans (.setPc rfl _), List.Subset.refl _⟩
  | callIf condition =>
    show Dialogue.Meets ((if condition.holds cpu.regs.flags then _ else _ : Microcode Unit) cpu) _
    dsimp only [Instruction.footprint]
    split
    · exact ⟨(Allows.setSp rfl _).trans (.setPc rfl _), List.Subset.refl _⟩
    · exact ⟨.rest, List.nil_subset _⟩
  | ret | retInterrupt =>
    intro low high
    exact ⟨(Allows.setSp rfl _).trans (.setPc rfl _), List.nil_subset _⟩
  | retIf condition =>
    show Dialogue.Meets ((if condition.holds cpu.regs.flags then _ else _ : Microcode Unit) _) _
    split <;> rename_i holds
    · intro low high
      exact ⟨(Allows.setSp holds _).trans (.setPc holds _), List.nil_subset _⟩
    · exact ⟨.rest, List.nil_subset _⟩

end Microcode

/-! ## Plain memory -/

namespace Flat
variable {α : Type}

/-- The memory after a call. -/
def after (flat : Flat) : Call → Flat
  | .write address value => flat.poke address value
  | .acknowledge source => flat.acknowledge source
  | .tick => flat.tick
  | .poll | .read _ _ | .resetDivider => flat

/-- The memory after some calls. -/
def replay (flat : Flat) (calls : List Call) : Flat := calls.foldl after flat

/-- **The calls tell what becomes of plain memory.** -/
theorem run_snd (dialogue : Dialogue α) (flat : Flat) :
    (dialogue.run flat).2 = flat.replay (dialogue.record flat).1 := by
  induction dialogue generalizing flat with
  | done => rfl
  | read _ _ ih | pending _ ih | buttonHeld _ ih => exact ih _ _
  | poll _ ih | write _ _ _ ih | tick _ ih | acknowledge _ _ ih | resetDivider _ ih => exact ih _

/-- Memory changes where something is stored, or by taking a request. -/
theorem peek_replay {calls : List Call} {address : UInt16} (flat : Flat)
    (untaken : ∀ source, .acknowledge source ∉ calls)
    (unstored : address ∉ calls.filterMap Call.stored?) :
    (flat.replay calls).peek address = flat.peek address := by
  induction calls generalizing flat with
  | nil => rfl
  | cons call calls ih =>
    have untaken' : ∀ source, .acknowledge source ∉ calls := fun source member =>
      untaken source (List.mem_cons_of_mem _ member)
    cases call with
    | write stored value =>
      obtain ⟨other, unstored⟩ := not_or.mp (mt List.mem_cons.mpr unstored)
      exact (ih (flat.poke stored value) untaken' unstored).trans
        ((peek_poke ..).trans (if_neg fun same => other same.symm))
    | acknowledge source => exact absurd (List.mem_cons_self ..) (untaken source)
    | read | tick | poll | resetDivider => exact ih _ untaken' unstored

/-- The one or two bytes behind an opcode, read from plain memory. -/
theorem run_readFrom (flat : Flat) (address : UInt16) : {count : Nat} → count ≤ 2 →
    (Dialogue.readFrom count address).run flat =
      ([flat.peek address, flat.peek (address + 1)].take count, { flat with ticks := flat.ticks + count })
  | 0, _ => rfl
  | 1, _ => rfl
  | 2, _ => rfl

end Flat

/-- Reading stores nothing. -/
theorem Dialogue.stored_readCalls (address : UInt16) (bytes : List UInt8) :
    (readCalls address bytes).filterMap Call.stored? = [] := by
  induction bytes generalizing address with
  | nil => rfl
  | cons _ _ ih => exact ih (address + 1)

/-! ## Steps -/

namespace Cpu
open Footprint (Allows)
variable {cpu : Cpu} {memory : Flat} {instruction : Instruction}

/-- What the instruction may change that comes next. -/
def footprint (cpu : Cpu) (memory : Flat) : Footprint :=
  .of (memory.peek cpu.regs.pc) (memory.peek (cpu.regs.pc + 1)) cpu.regs.flags

/-- The addresses at which it may store. -/
def cells (cpu : Cpu) (memory : Flat) : List UInt16 :=
  (cpu.footprint memory).site.cells (memory.peek (cpu.regs.pc + 1)) (memory.peek (cpu.regs.pc + 2)) cpu.regs

/-- A HALT that finds an interrupt pending while interrupts are just to be enabled.  It is executed again. -/
def RepeatsHalt (cpu : Cpu) (memory : Flat) : Prop :=
  memory.peek cpu.regs.pc = 0x76 ∧ cpu.ime = false ∧ cpu.enabling = true ∧ memory.pending ≠ 0

/-- **A step that leaves alone what its opcode does not name.** -/
structure StaysWithin (cpu : Cpu) (memory : Flat) : Prop where
  result : ∃ spent, (cpu.step.run memory).1.result = .ok spent
  /-- The program counter moves on by the length of the instruction. -/
  pc : (cpu.footprint memory).elsewhere = false → ¬ cpu.RepeatsHalt memory →
    (cpu.step.run memory).1.cpu.regs.pc = cpu.regs.pc + UInt16.ofNat (cpu.footprint memory).length
  flags : (cpu.footprint memory).flags = false →
    (cpu.step.run memory).1.cpu.regs.flags = cpu.regs.flags
  register : ∀ name ∉ (cpu.footprint memory).registers,
    name.get (cpu.step.run memory).1.cpu.regs = name.get cpu.regs
  sp : (cpu.footprint memory).sp = false → (cpu.step.run memory).1.cpu.regs.sp = cpu.regs.sp
  memory : ∀ address ∉ cpu.cells memory, (cpu.step.run memory).2.peek address = memory.peek address

theorem regs_settled (cpu after : Cpu) : (cpu.settled after).regs = after.regs := by
  unfold settled
  split <;> rfl

/-- The program counter has no part in where an instruction stores. -/
theorem cells_congr (site : StoreSite) (second third : UInt8) (regs : Registers) (pc : UInt16) :
    site.cells second third { regs with pc := pc } = site.cells second third regs := by
  cases site <;> rfl

/-- **An instruction on plain memory**: it reads its operands, which stores nothing, and then does the rest. -/
theorem confines_perform (noHalt : instruction ≠ .halt) (noStop : instruction ≠ .stop) (cpu : Cpu)
    (plain : cpu.haltBug = false) (memory : Flat) :
    let second := memory.peek cpu.regs.pc
    let footprint := instruction.footprint second cpu.regs.flags
    footprint.Confines (footprint.site.cells second (memory.peek (cpu.regs.pc + 1)) cpu.regs)
      { cpu.regs with pc := cpu.regs.pc + UInt16.ofNat instruction.operandBytes }
      ((instruction.perform cpu).record memory).1 ((instruction.perform cpu).record memory).2.1.2.regs := by
  intro second footprint
  have operands := memory.run_readFrom cpu.regs.pc instruction.operandBytes_le
  obtain ⟨-, program⟩ := (Dialogue.meets_readFrom instruction.operandBytes cpu.regs.pc).of_record memory
  obtain ⟨allows, stores⟩ := (Microcode.confined_performWith noHalt noStop second
    (memory.peek (cpu.regs.pc + 1)) (cpu.past instruction.operandBytes)).of_record
      { memory with ticks := memory.ticks + instruction.operandBytes }
  rw [Dialogue.record_snd] at allows
  rw [instruction.perform_of_plain plain, Dialogue.record_bind]
  simp only [Dialogue.record_snd, operands]
  refine ⟨allows, ?_⟩
  rw [List.filterMap_append, program, Dialogue.stored_readCalls, List.nil_append]
  rw [← cells_congr _ second _ cpu.regs]
  exact stores

/-- **A HALT** stores nothing, and of the registers it changes the program counter at most. -/
theorem exists_regs_halt (cpu : Cpu) (memory : Flat) :
    let done := (Instruction.halt.perform cpu).record memory
    done.1 = [] ∧ ∃ onward,
      (¬ (cpu.ime = false ∧ cpu.enabling = true ∧ memory.pending ≠ 0) → onward = cpu.regs.pc) ∧
        done.2.1.2.regs = { cpu.regs with pc := onward } := by
  refine ⟨rfl, ?_⟩
  -- Of the three endings of a HALT the second goes back.
  show ∃ onward, _ ∧ Cpu.regs (if (cpu.ime || memory.pending == 0) = true then _
    else if cpu.enabling = true then _ else _) = _
  split
  · exact ⟨_, fun _ => rfl, rfl⟩
  · rename_i waits
    obtain ⟨off, waits⟩ : cpu.ime = false ∧ memory.pending ≠ 0 := by simpa using waits
    split
    · rename_i wish
      exact ⟨_, fun once => absurd ⟨off, wish, waits⟩ once, rfl⟩
    · exact ⟨_, fun _ => rfl, rfl⟩

/-- An instruction on plain memory keeps to the footprint of its opcode.  What it does it does behind its last
byte, but for the HALT that goes back. -/
theorem exists_confines (plain : cpu.haltBug = false)
    (named : Instruction.decode (memory.peek cpu.regs.pc) = some instruction) :
    ∃ onward, (¬ cpu.RepeatsHalt memory → onward = cpu.regs.pc + UInt16.ofNat (cpu.footprint memory).length) ∧
      (cpu.footprint memory).Confines (cpu.cells memory) { cpu.regs with pc := onward }
        ((instruction.perform cpu.fetched).record memory.tick).1
        ((instruction.perform cpu.fetched).record memory.tick).2.1.2.regs := by
  obtain ⟨regs, ime, state, cycles, enabling, haltBug, fault⟩ := cpu
  obtain rfl : haltBug = false := plain
  have own := Footprint.of_decode named (memory.peek (regs.pc + 1)) regs.flags
  unfold cells footprint
  rw [own]
  by_cases noStop : instruction = .stop
  · subst noStop
    have twice : regs.pc + 1 + 1 = regs.pc + UInt16.ofNat 2 := UInt16.add_assoc ..
    refine ⟨_, fun _ => rfl, ?_, List.nil_subset _⟩
    show Allows _ _ { regs with pc := regs.pc + 1 + 1 }
    rw [twice]
    exact .rest
  by_cases noHalt : instruction = .halt
  · subst noHalt
    obtain ⟨calls, onward, moves, after⟩ :=
      exists_regs_halt (fetched ⟨regs, ime, state, cycles, enabling, false, fault⟩) memory.tick
    rw [calls, after]
    exact ⟨onward, fun once => moves fun repeats => once ⟨Instruction.eq_of_decode_halt _ named, repeats⟩,
      .rest, List.nil_subset _⟩
  have confined := confines_perform noHalt noStop (fetched ⟨regs, ime, state, cycles, enabling, false, fault⟩)
    rfl memory.tick
  have behind : regs.pc + UInt16.ofNat (1 + instruction.operandBytes) =
      regs.pc + 1 + UInt16.ofNat instruction.operandBytes := by
    rw [UInt16.ofNat_add, ← UInt16.add_assoc]
    rfl
  have third : regs.pc + 1 + 1 = regs.pc + 2 := UInt16.add_assoc ..
  refine ⟨_, fun _ => rfl, ?_⟩
  rw [Footprint.length_eq noStop, behind, ← third]
  exact cells_congr _ _ _ regs (regs.pc + 1) ▸ confined

/-- **An instruction leaves alone what its opcode does not name.**  On every plain memory, for every processor
that has no fault, is running, has no interrupt to serve and no byte to read twice, and for every legal opcode:
the step succeeds, the program counter moves on by the length of the instruction unless that is a jump, a call
or a return that is taken, or a HALT that is to be executed again, and flags, byte registers, stack pointer and
memory change only as far as the footprint of the opcode has them change. -/
theorem step_stays_within (healthy : cpu.fault = none) (awake : cpu.state = .running)
    (plain : cpu.haltBug = false) (quiet : cpu.ime = false ∨ memory.pending = 0)
    (legal : memory.peek cpu.regs.pc ∉ Instruction.gaps) : cpu.StaysWithin memory := by
  obtain ⟨instruction, named⟩ : ∃ instruction,
      Instruction.decode (memory.peek cpu.regs.pc) = some instruction :=
    Option.ne_none_iff_exists'.mp fun unnamed => legal ((Instruction.decode_eq_none_iff _).mp unnamed)
  obtain ⟨onward, behind, allows, stores⟩ := exists_confines plain named
  have talk := record_of_named healthy awake quiet named
  have regs : (cpu.step.run memory).1.cpu.regs =
      ((instruction.perform cpu.fetched).record memory.tick).2.1.2.regs := by
    rw [← Dialogue.record_snd, talk]
    exact regs_settled ..
  constructor
  case result =>
    rw [← Dialogue.record_snd, talk]
    exact ⟨_, rfl⟩
  case pc =>
    intro straight once
    rw [regs, allows.pc straight]
    exact behind once
  case flags =>
    intro kept
    rw [regs, allows.flags kept]
  case register =>
    intro name unlisted
    rw [regs, allows.register name unlisted]
    cases name <;> rfl
  case sp =>
    intro kept
    rw [regs, allows.sp kept]
  case memory =>
    intro address other
    rw [Flat.run_snd]
    refine memory.peek_replay (acknowledge_notMem_step fun due => ?_) ?_
    · exact quiet.elim (Bool.eq_false_iff.mp · due.served) due.waits
    · rw [talk]
      exact fun stored => other (stores stored)

/-- A push from the lowest address but one: of the two bytes that may change the second is the last of all. -/
theorem push_stays_within :
    let cpu : Cpu := { regs := { pc := 0xC000, sp := 0x0001, b := 0x12, c := 0x34 } }
    let memory := ({} : Flat).poke 0xC000 0xC5
    cpu.StaysWithin memory ∧ cpu.footprint memory = { sp := true, site := .stack } ∧
      cpu.cells memory = [0x0000, 0xFFFF] := by
  intro cpu memory
  have opcode : memory.peek cpu.regs.pc = 0xC5 := (Flat.peek_poke ..).trans (if_pos rfl)
  have footprint : cpu.footprint memory = { sp := true, site := .stack } := by
    unfold Cpu.footprint
    rw [opcode]
    rfl
  refine ⟨step_stays_within rfl rfl rfl (.inl rfl) ?_, footprint, ?_⟩
  · rw [opcode]
    decide
  · unfold cells
    rw [footprint]
    show [(0x0001 : UInt16) - 1, 0x0001 - 1 - 1] = [0x0000, 0xFFFF]
    decide

end Cpu
end DotMatrix
