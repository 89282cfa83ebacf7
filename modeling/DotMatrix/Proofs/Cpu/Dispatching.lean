import DotMatrix.Proofs.Cpu.HaltBug
import DotMatrix.Proofs.Cpu.Serving

/-! # Interrupts are served promptly

Between two steps the processor looks once for an interrupt, and if one is due, serving it is the whole of
the next step.  This module first says for each state of the processor what a step amounts to on a bus.
Then the calls of a dispatch are read off in their order (`Cpu.Serves`), a dispatch happens whenever an
interrupt is due and at no other time, and an interrupt that comes up during an instruction is served right
behind it, since only HALT and STOP put the processor to sleep (`Cpu.prompt`).
-/
namespace DotMatrix

/-! ## The source that is served -/

namespace Interrupt

/-- The lowest bit that is set in a mask is that of a source. -/
structure Lowest (mask : UInt8) (source : Interrupt) : Prop where
  set : mask.toNat.testBit source.index = true
  first : ∀ bit < source.index, mask.toNat.testBit bit = false

theorem lowest_of_highest? {mask : UInt8} {source : Interrupt} (found : highest? mask = some source) :
    Lowest mask source := by
  have both : ∀ mask : UInt8, highest? mask = some source → mask.toNat.testBit source.index = true ∧
      ∀ bit < source.index, mask.toNat.testBit bit = false := by
    cases source <;> exact forall_byte (by decide +kernel)
  exact ⟨(both mask found).1, (both mask found).2⟩

/-- On a bus that keeps to the five sources, what is pending has a source. -/
theorem exists_highest {β : Type} [Bus β] [Bus.Lawful β] {bus : β} (waits : Bus.pending bus ≠ 0) :
    ∃ source, highest? (Bus.pending bus) = some source := by
  refine Option.ne_none_iff_exists'.mp fun unnamed => waits ?_
  rw [highest?_eq_none_iff, Bus.Lawful.pending_and] at unnamed
  exact unnamed

end Interrupt

/-! ## What puts the processor to sleep -/

namespace Microcode
variable {α γ : Type}

/-- `code` neither wakes the processor nor puts it to sleep. -/
class Wakeful (code : Microcode α) : Prop where
  state : ∀ cpu, (code cpu).Meets fun _ out => out.2.state = cpu.state

instance (code : Microcode α) (next : α → Microcode γ) [first : Wakeful code]
    [second : ∀ value, Wakeful (next value)] : Wakeful (code >>= next) where
  state cpu := (first.state cpu).bind fun _ out done =>
    ((second out.1).state out.2).mono fun _ _ more => more.trans done

instance (value : α) : Wakeful (pure value : Microcode α) := ⟨fun _ => rfl⟩

instance (condition : Prop) [Decidable condition] (yes no : Microcode α) [Wakeful yes] [Wakeful no] :
    Wakeful (if condition then yes else no) := by
  split <;> infer_instance

instance : Wakeful idle := ⟨fun _ => rfl⟩

instance (address : UInt16) : Wakeful (load address) := ⟨fun _ _ => rfl⟩

instance (address : UInt16) (value : UInt8) : Wakeful (store address value) := ⟨fun _ => rfl⟩

instance (view : Registers → α) : Wakeful (look view) := ⟨fun _ => rfl⟩

instance (update : Registers → Registers) : Wakeful (change update) := ⟨fun _ => rfl⟩

instance (on : Bool) : Wakeful (setIme on) := ⟨fun _ => rfl⟩

instance (on : Bool) : Wakeful (setEnabling on) := ⟨fun _ => rfl⟩

instance : Wakeful fetch := ⟨Cpu.fetch_state⟩

instance : Wakeful fetchWord := by unfold fetchWord; infer_instance

instance (word : UInt16) : Wakeful (pushWord word) := by unfold pushWord; infer_instance

instance : Wakeful popWord := by unfold popWord; infer_instance

instance (flags : Flags) : Wakeful (setFlags flags) := by unfold setFlags; infer_instance

instance (result : UInt8 × Flags) : Wakeful (setResult result) := by unfold setResult; infer_instance

instance (address : UInt16) : Wakeful (goTo address) := by unfold goTo; infer_instance

instance (operation : ByteOperation) (value : UInt8) : Wakeful (combineA operation value) := by
  unfold combineA; infer_instance

instance (offset : UInt8) : Wakeful (jumpBy offset) := by unfold jumpBy; infer_instance

instance (target : UInt16) : Wakeful (jumpTo target) := by unfold jumpTo; infer_instance

instance (target : UInt16) : Wakeful (callTo target) := by unfold callTo; infer_instance

instance : Wakeful returnToCaller := by unfold returnToCaller; infer_instance

instance (place : Place) : Wakeful place.get := by
  cases place <;> simp only [Place.get] <;> infer_instance

instance (place : Place) (value : UInt8) : Wakeful (place.set value) := by
  cases place <;> simp only [Place.set] <;> infer_instance

instance (pointer : Pointer) : Wakeful pointer.take := by
  cases pointer <;> simp only [Pointer.take] <;> infer_instance

instance (instruction : BitInstruction) : Wakeful instruction.perform := by
  cases instruction <;> simp only [BitInstruction.perform] <;> infer_instance

/-- **Only HALT and STOP put the processor to sleep.** -/
theorem wakeful_perform {instruction : Instruction} (noHalt : instruction ≠ .halt)
    (noStop : instruction ≠ .stop) : Wakeful instruction.perform := by
  cases instruction <;> first | contradiction | (simp only [Instruction.perform]; infer_instance)

end Microcode

namespace Cpu
open Microcode

section
variable {β : Type} [Bus β] {cpu : Cpu} {bus : β}

/-! ## Steps by the state of the processor -/

/-- A processor that is awake, or is woken by a button, proceeds after the poll. -/
theorem record_of_awake (healthy : cpu.fault = none)
    (awake : cpu.state = .running ∨ cpu.state = .stopped ∧ Bus.buttonHeld (Bus.poll bus) = true) :
    let turn := ({ cpu with state := .running } : Cpu).proceed.record (Bus.poll bus)
    cpu.step.record bus = (.poll :: turn.1, turn.2) := by
  obtain ⟨regs, ime, state, cycles, enabling, haltBug, fault⟩ := cpu
  obtain rfl : fault = none := healthy
  rcases awake with running | ⟨stopped, held⟩
  · obtain rfl : state = .running := running
    rfl
  · obtain rfl : state = .stopped := stopped
    simp only [step, Dialogue.record, held, if_true]

/-- A halted processor lets one M-cycle pass and then looks for an interrupt, whatever IME is. -/
theorem record_of_halted (healthy : cpu.fault = none) (halted : cpu.state = .halted) :
    cpu.step.record bus = ([.poll, .tick], ⟨.ok 4, { cpu with
      cycles := cpu.cycles + 4
      state := if Bus.pending (Bus.tick (Bus.poll bus)) = 0 then .halted else .running }, .wait⟩,
      Bus.tick (Bus.poll bus)) := by
  obtain ⟨regs, ime, state, cycles, enabling, haltBug, fault⟩ := cpu
  obtain rfl : fault = none := healthy
  obtain rfl : state = .halted := halted
  simp only [step, idle, Dialogue.record, finish, beq_iff_eq]
  split <;> simp

/-- A stopped processor lets one M-cycle pass while no button is down. -/
theorem record_of_stopped (healthy : cpu.fault = none) (stopped : cpu.state = .stopped)
    (released : Bus.buttonHeld (Bus.poll bus) = false) :
    cpu.step.record bus = ([.poll, .tick], finish cpu.cycles .wait { cpu with cycles := cpu.cycles + 4 },
      Bus.tick (Bus.poll bus)) := by
  unfold step
  simp only [healthy, stopped, Dialogue.record, released, Bool.false_eq_true, if_false, idle]

/-- A processor that is awake executes an instruction if there is no interrupt to be served. -/
theorem record_proceed_of_quiet (quiet : cpu.ime = false ∨ Bus.pending bus = 0) :
    cpu.proceed.record bus = cpu.instruct.record bus := by
  have undisturbed : ¬ (cpu.ime && Bus.pending bus != 0) = true := by
    rcases quiet with off | none
    · simp [off]
    · simp [none]
  simp only [proceed, Dialogue.record, if_neg undisturbed]

/-- A processor that is awake dispatches if there is an interrupt to be served. -/
theorem record_proceed_of_served (served : cpu.ime = true) {source : Interrupt}
    (waits : Bus.pending bus ≠ 0) (found : Interrupt.highest? (Bus.pending bus) = some source) :
    (cpu.proceed.record bus).1 =
        .acknowledge source :: .tick :: .tick :: (pushCalls cpu.regs.sp cpu.regs.pc ++ [.tick]) ∧
      (cpu.proceed.record bus).2.1 = finish cpu.cycles (.dispatch source) (cpu.serving source) := by
  have disturbed : (cpu.ime && Bus.pending bus != 0) = true := by simp [served, waits]
  simp only [proceed, Dialogue.record, if_pos disturbed, found]
  exact ⟨rfl, rfl⟩

/-- Then it does not execute an instruction, even if what is pending has no source. -/
theorem deed_proceed_of_served (served : cpu.ime = true) (waits : Bus.pending bus ≠ 0)
    (address : UInt16) (opcode : UInt8) (fetched : Cpu) :
    (cpu.proceed.record bus).2.1.deed ≠ .execute address opcode fetched := by
  intro deed
  cases found : Interrupt.highest? (Bus.pending bus) with
  | some source =>
    rw [(record_proceed_of_served served waits found).2] at deed
    cases deed
  | none =>
    have disturbed : (cpu.ime && Bus.pending bus != 0) = true := by simp [served, waits]
    simp only [proceed, Dialogue.record, if_pos disturbed, found] at deed
    cases deed

/-! ## Steps that execute an instruction -/

/-- Fetching a byte of the program on a bus. -/
theorem record_fetch : (fetch cpu).record bus = ([.read cpu.regs.pc (Bus.read bus cpu.regs.pc).1, .tick],
    ((Bus.read bus cpu.regs.pc).1, cpu.fetched), Bus.tick (Bus.read bus cpu.regs.pc).2) := by
  obtain ⟨calls, after⟩ := cpu.meets_fetch.of_record bus
  have value : ((fetch cpu).record bus).2.1.1 = (Bus.read bus cpu.regs.pc).1 := rfl
  rw [value] at calls
  exact Prod.ext calls (Prod.ext (Prod.ext value after) rfl)

/-- Executing an opcode that names an instruction. -/
theorem record_instruct_of_named {instruction : Instruction}
    (named : Instruction.decode (Bus.read bus cpu.regs.pc).1 = some instruction) :
    let opcode := (Bus.read bus cpu.regs.pc).1
    let performed := (instruction.perform cpu.fetched).record (Bus.tick (Bus.read bus cpu.regs.pc).2)
    cpu.instruct.record bus = (.read cpu.regs.pc opcode :: .tick :: performed.1,
      finish cpu.cycles (.execute cpu.regs.pc opcode cpu.fetched) (cpu.settled performed.2.1.2),
      performed.2.2) := by
  intro opcode performed
  have executed : (Microcode.execute (Bus.read bus cpu.regs.pc).1 cpu.fetched).record
      (Bus.tick (Bus.read bus cpu.regs.pc).2) = (performed.1, (some (), performed.2.1.2), performed.2.2) := by
    unfold Microcode.execute
    rw [named]
    show ((instruction.perform cpu.fetched).bind fun out => .done (some (), out.2)).record _ = _
    rw [Dialogue.record_bind]
    exact congrArg (·, _) (List.append_nil _)
  unfold instruct settled
  simp only [bind, Dialogue.record_bind, record_fetch, executed]
  split
  · simp only [pure, Dialogue.record, List.append_nil, List.cons_append, List.nil_append]
    rfl
  · simp only [pure, Dialogue.record, List.append_nil, List.cons_append, List.nil_append]
    rfl

/-- Fetching an opcode that names no instruction. -/
theorem record_instruct_of_unnamed (unnamed : Instruction.decode (Bus.read bus cpu.regs.pc).1 = none) :
    let opcode := (Bus.read bus cpu.regs.pc).1
    cpu.instruct.record bus = ([.read cpu.regs.pc opcode, .tick],
      cpu.fetched.fail (.illegalOpcode opcode cpu.regs.pc) (.execute cpu.regs.pc opcode cpu.fetched),
      Bus.tick (Bus.read bus cpu.regs.pc).2) := by
  intro opcode
  have executed : (Microcode.execute (Bus.read bus cpu.regs.pc).1 cpu.fetched).record
      (Bus.tick (Bus.read bus cpu.regs.pc).2) =
        ([], (none, cpu.fetched), Bus.tick (Bus.read bus cpu.regs.pc).2) := by
    unfold Microcode.execute
    rw [unnamed]
    rfl
  unfold instruct
  simp only [bind, Dialogue.record_bind, record_fetch, executed]
  rfl

/-- Either way the opcode is the byte at the program counter. -/
theorem begins_instruct : (∃ rest, (cpu.instruct.record bus).1 =
      .read cpu.regs.pc (Bus.read bus cpu.regs.pc).1 :: .tick :: rest) ∧
    (cpu.instruct.record bus).2.1.deed =
      .execute cpu.regs.pc (Bus.read bus cpu.regs.pc).1 cpu.fetched := by
  cases named : Instruction.decode (Bus.read bus cpu.regs.pc).1 with
  | some instruction =>
    rw [record_instruct_of_named named]
    exact ⟨⟨_, rfl⟩, rfl⟩
  | none =>
    rw [record_instruct_of_unnamed named]
    exact ⟨⟨_, rfl⟩, rfl⟩

/-- If a step executes anything, it is what the processor finds where it stands. -/
theorem record_of_execute {address : UInt16} {opcode : UInt8} {fetched : Cpu}
    (deed : (cpu.step.run bus).1.deed = .execute address opcode fetched) :
    let turn := ({ cpu with state := .running } : Cpu).instruct.record (Bus.poll bus)
    cpu.step.record bus = (.poll :: turn.1, turn.2) ∧ cpu.fault = none ∧
      opcode = (Bus.read (Bus.poll bus) cpu.regs.pc).1 := by
  intro turn
  rw [← Dialogue.record_snd] at deed
  have healthy : cpu.fault = none := by
    cases faulty : cpu.fault with
    | none => rfl
    | some fault =>
      rw [step_of_fault faulty] at deed
      cases deed
  have awake : cpu.state = .running ∨ cpu.state = .stopped ∧ Bus.buttonHeld (Bus.poll bus) = true := by
    cases state : cpu.state with
    | running => exact .inl rfl
    | halted =>
      rw [record_of_halted healthy state] at deed
      cases deed
    | stopped =>
      refine .inr ⟨rfl, (Bool.not_eq_false _).mp fun released => ?_⟩
      rw [record_of_stopped healthy state released] at deed
      cases deed
  have talk := record_of_awake healthy awake
  by_cases quiet : cpu.ime = false ∨ Bus.pending (Bus.poll bus) = 0
  · rw [@record_proceed_of_quiet β _ { cpu with state := .running } _ quiet] at talk
    rw [talk] at deed
    exact ⟨talk, healthy, (Deed.execute.inj (deed.symm.trans begins_instruct.2)).2.1⟩
  · rw [not_or, Bool.not_eq_false] at quiet
    rw [talk] at deed
    exact (@deed_proceed_of_served β _ { cpu with state := .running } _ quiet.1 quiet.2 _ _ _ deed).elim

/-! ## When an interrupt is served -/

/-- **An interrupt is due**: the processor is awake, or a button wakes it, it serves interrupts, and when
the buttons have been sampled one is pending. -/
structure Due (cpu : Cpu) (bus : β) : Prop where
  healthy : cpu.fault = none
  awake : cpu.state = .running ∨ cpu.state = .stopped ∧ Bus.buttonHeld (Bus.poll bus) = true
  served : cpu.ime = true
  waits : Bus.pending (Bus.poll bus) ≠ 0

/-- **A step that is a dispatch** and nothing besides; addresses wrap. -/
structure Serves (cpu : Cpu) (bus : β) (source : Interrupt) : Prop where
  lowest : Interrupt.Lowest (Bus.pending (Bus.poll bus)) source
  /-- All calls, in their order.  None of them fetches an opcode. -/
  calls : (cpu.step.record bus).1 = [.poll, .acknowledge source, .tick, .tick,
    .write (cpu.regs.sp - 1) (highByte cpu.regs.pc), .tick,
    .write (cpu.regs.sp - 2) (lowByte cpu.regs.pc), .tick, .tick]
  result : (cpu.step.run bus).1.result = .ok 20
  /-- All that changes of the processor. -/
  after : (cpu.step.run bus).1.cpu = { cpu with
    regs := { cpu.regs with
      pc := UInt16.ofNat (0x40 + 8 * source.index)
      sp := cpu.regs.sp - 2 }
    cycles := cpu.cycles + 20
    state := .running
    ime := false }

/-- **What is due is served**, and the step does nothing else. -/
theorem Due.exists_serves [Bus.Lawful β] (due : cpu.Due bus) : ∃ source, cpu.Serves bus source := by
  obtain ⟨source, found⟩ := Interrupt.exists_highest due.waits
  refine ⟨source, ?_⟩
  obtain ⟨calls, outcome⟩ :=
    @record_proceed_of_served β _ { cpu with state := .running } _ due.served source due.waits found
  have below : cpu.regs.sp - 1 - 1 = cpu.regs.sp - 2 := by grind
  have talk := record_of_awake due.healthy due.awake
  have ended : (cpu.step.run bus).1 = finish cpu.cycles (.dispatch source)
      (serving { cpu with state := .running } source) := by
    rw [← Dialogue.record_snd, talk]
    exact outcome
  constructor
  case lowest => exact Interrupt.lowest_of_highest? found
  case calls =>
    rw [talk]
    dsimp only
    rw [calls, pushCalls, below]
    rfl
  case result =>
    rw [ended]
    exact congrArg Except.ok (Nat.add_sub_cancel_left ..)
  case after =>
    rw [ended, finish, serving, Interrupt.vector_eq, below]

/-- **What is not due is left alone.** -/
theorem acknowledge_notMem_step (idle : ¬ cpu.Due bus) (source : Interrupt) :
    .acknowledge source ∉ (cpu.step.record bus).1 := by
  cases healthy : cpu.fault with
  | some fault =>
    rw [step_of_fault healthy]
    exact List.not_mem_nil
  | none =>
    -- A processor that is awake has nothing to serve, and so it executes an instruction.
    have spared (awake : cpu.state = .running ∨
        cpu.state = .stopped ∧ Bus.buttonHeld (Bus.poll bus) = true) :
        .acknowledge source ∉ (cpu.step.record bus).1 := by
      have quiet : cpu.ime = false ∨ Bus.pending (Bus.poll bus) = 0 := by
        by_cases served : cpu.ime = true
        · exact .inr (Classical.byContradiction fun waits => idle ⟨healthy, awake, served, waits⟩)
        · exact .inl (Bool.eq_false_iff.mpr served)
      rw [record_of_awake healthy awake,
        @record_proceed_of_quiet β _ { cpu with state := .running } _ quiet]
      have spared := (acknowledge_notMem_instruct { cpu with state := .running }).of_record
        (Bus.poll bus) source
      simpa using spared
    cases state : cpu.state with
    | running => exact spared (.inl state)
    | halted =>
      rw [record_of_halted healthy state]
      simp
    | stopped =>
      cases held : Bus.buttonHeld (Bus.poll bus) with
      | true => exact spared (.inr ⟨state, held⟩)
      | false =>
        rw [record_of_stopped healthy state held]
        simp

end

/-! ## Behind an instruction -/

section
variable {cpu : Cpu} {calls : List Call} {outcome : Outcome}

theorem state_settled (cpu after : Cpu) : (cpu.settled after).state = after.state := by
  unfold settled
  split <;> rfl

theorem awake_turn (healthy : cpu.fault = none) (awake : cpu.state = .running)
    (turn : cpu.Turn calls outcome) {instruction : Instruction}
    (executed : outcome.instruction? = some instruction) (noHalt : instruction ≠ .halt)
    (noStop : instruction ≠ .stop) : outcome.cpu.fault = none ∧ outcome.cpu.state = .running := by
  cases turn with
  | overlooked | dispatched => cases executed
  | failed opcode unnamed => exact absurd (unnamed.symm.trans executed) nofun
  | executed opcode named performed =>
    obtain rfl := Option.some.inj (named.symm.trans executed)
    exact ⟨(fault_settled ..).trans ((performed _ (fault_perform ..)).trans healthy),
      (state_settled ..).trans ((performed _ ((wakeful_perform noHalt noStop).state _)).trans awake)⟩

/-- The processor is awake after any instruction but HALT and STOP. -/
theorem awake_step (step : cpu.Step calls outcome) {instruction : Instruction}
    (executed : outcome.instruction? = some instruction) (noHalt : instruction ≠ .halt)
    (noStop : instruction ≠ .stop) : outcome.cpu.fault = none ∧ outcome.cpu.state = .running := by
  cases step with
  | refused | halted | stopped => cases executed
  | awake healthy awake turn => exact awake_turn healthy awake turn executed noHalt noStop
  | woken healthy stopped turn =>
    exact @awake_turn { cpu with state := .running } _ _ healthy rfl turn _ executed noHalt noStop

end

/-- **Prompt service** on buses of one kind, where an instruction may be exempt from the last rule. -/
structure Prompt (β : Type) [Bus β] (exempt : Instruction → Prop) : Prop where
  /-- What is due is served, and this is the whole step. -/
  serves : ∀ (cpu : Cpu) (bus : β), cpu.Due bus → ∃ source, cpu.Serves bus source
  /-- At no other time a request is taken. -/
  spares : ∀ (cpu : Cpu) (bus : β), ¬ cpu.Due bus →
    ∀ source, .acknowledge source ∉ (cpu.step.record bus).1
  /-- An interrupt that is pending behind an instruction, with IME on, is the whole of the next step. -/
  behind : ∀ (cpu : Cpu) (bus : β) (instruction : Instruction), let ended := cpu.step.run bus
    ended.1.instruction? = some instruction → ¬ exempt instruction → ended.1.cpu.ime = true →
      Bus.pending (Bus.poll ended.2) ≠ 0 → ∃ source, ended.1.cpu.Serves ended.2 source

/-- **Interrupts are served promptly** on every bus that keeps to the five sources; HALT and STOP put
the processor to sleep, so that it has to wake up first. -/
theorem prompt {β : Type} [Bus β] [Bus.Lawful β] :
    Prompt β fun instruction => instruction = .halt ∨ instruction = .stop where
  serves _ _ due := due.exists_serves
  spares _ _ idle := acknowledge_notMem_step idle
  behind := by
    intro cpu bus instruction ended executed awake served waits
    rw [not_or] at awake
    have step := (steps_step cpu).of_record bus
    rw [Dialogue.record_snd] at step
    obtain ⟨healthy, running⟩ := awake_step step executed awake.1 awake.2
    exact Due.exists_serves ⟨healthy, .inl running, served, waits⟩

/-- A bus on which every byte is the same, and where nothing is pending before the first M-cycle. -/
structure Bell where
  byte : UInt8
  mask : UInt8
  ticks : Nat := 0

instance : Bus Bell where
  read bell _ := (bell.byte, bell)
  write bell _ _ := bell
  tick bell := { bell with ticks := bell.ticks + 1 }
  pending bell := if bell.ticks = 0 then 0 else bell.mask &&& 0x1F
  acknowledge bell _ := bell

instance : Bus.Lawful Bell := ⟨fun bell => by
  show (if bell.ticks = 0 then 0 else bell.mask &&& 0x1F) &&& 0x1F =
    if bell.ticks = 0 then 0 else bell.mask &&& 0x1F
  split
  · rfl
  · rw [UInt8.and_assoc, UInt8.and_self]⟩

/-- Two interrupts that come up during a NOP, with the stack at the end of memory. -/
theorem prompt_behind_nop :
    let cpu : Cpu := { regs := { sp := 0x0001 }, ime := true }
    let ended := cpu.step.run (⟨0x00, 0x14, 0⟩ : Bell)
    ended.1.instruction? = some .nop ∧ Bus.pending (Bus.poll ended.2) ≠ 0 ∧
      (ended.1.cpu.step.record ended.2).1 = [.poll, .acknowledge .timer, .tick, .tick,
        .write 0x0000 0x00, .tick, .write 0xFFFF 0x01, .tick, .tick] := by
  intro cpu ended
  have executed : ended.1.instruction? = some .nop := by decide
  have waits : Bus.pending (Bus.poll ended.2) ≠ 0 := by decide
  refine ⟨executed, waits, ?_⟩
  obtain ⟨source, served⟩ :=
    prompt.behind cpu (⟨0x00, 0x14, 0⟩ : Bell) .nop executed (by decide) rfl waits
  obtain rfl : source = .timer := by
    obtain ⟨set, first⟩ := served.lowest
    cases source <;> first | rfl | (revert set first; decide)
  exact served.calls.trans (by decide)

/-- **HALT has to be exempt**: an interrupt that comes up during it, with IME on, is not the whole of the
next step, in which the processor only wakes up. -/
theorem not_prompt_behind_halt :
    let cpu : Cpu := { regs := {}, ime := true }
    let bell : Bell := ⟨0x76, 0x01, 0⟩
    let ended := cpu.step.run bell
    Bus.pending (Bus.poll bell) = 0 ∧ ended.1.instruction? = some .halt ∧ ended.1.cpu.ime = true ∧
      Bus.pending (Bus.poll ended.2) = 0x01 ∧ (ended.1.cpu.step.record ended.2).1 = [.poll, .tick] ∧
      ¬ Prompt Bell fun _ => False := by
  intro cpu bell ended
  have executed : ended.1.instruction? = some .halt := by decide
  have served : ended.1.cpu.ime = true := by decide
  have waits : Bus.pending (Bus.poll ended.2) = 0x01 := by decide
  have woken : (ended.1.cpu.step.record ended.2).1 = [.poll, .tick] := by decide
  refine ⟨by decide, executed, served, waits, woken, fun prompt => ?_⟩
  obtain ⟨source, serves⟩ := prompt.behind cpu bell .halt executed not_false served (by decide)
  have calls := serves.calls
  rw [woken] at calls
  cases calls

end Cpu
end DotMatrix
