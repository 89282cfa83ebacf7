import DotMatrix.Cpu.Progress
import DotMatrix.Proofs.Cpu.Cycles

/-! # How long instructions take

There is no table of cycle counts in the microcode: an instruction takes as long as the accesses it
makes and the idle M-cycles between them.  This module counts the M-cycles of all microcode, piece by
piece (`Takes`), up to the whole instruction (`ticks_perform`), and concludes that every step that
executes a legal opcode takes exactly what the table says, and that no step takes more than six.
-/
namespace DotMatrix

/-! ## M-cycles of microcode -/

namespace Microcode
variable {α γ : Type}

/-- `code` passes `count` M-cycles, whatever the processor and however the bus answers. -/
class Takes (code : Microcode α) (count : outParam Nat) : Prop where
  ticks : ∀ cpu, (code cpu).Meets fun calls _ => calls.count .tick = count

instance (code : Microcode α) (next : α → Microcode γ) (n m : Nat) [first : Takes code n]
    [second : ∀ value, Takes (next value) m] : Takes (code >>= next) (n + m) where
  ticks cpu := (first.ticks cpu).bind fun _ out done =>
    ((second out.1).ticks out.2).mono fun _ _ more => by
      rw [List.count_append, done, more]

instance (value : α) : Takes (pure value : Microcode α) 0 := ⟨fun _ => rfl⟩

instance : Takes idle 1 := ⟨fun _ => rfl⟩

instance (address : UInt16) : Takes (load address) 1 := ⟨fun _ _ => rfl⟩

instance (address : UInt16) (value : UInt8) : Takes (store address value) 1 := ⟨fun _ => rfl⟩

instance : Takes resetDivider 0 := ⟨fun _ => rfl⟩

instance (view : Registers → α) : Takes (look view) 0 := ⟨fun _ => rfl⟩

instance (update : Registers → Registers) : Takes (change update) 0 := ⟨fun _ => rfl⟩

instance (state : RunState) : Takes (setState state) 0 := ⟨fun _ => rfl⟩

instance (on : Bool) : Takes (setIme on) 0 := ⟨fun _ => rfl⟩

instance (on : Bool) : Takes (setEnabling on) 0 := ⟨fun _ => rfl⟩

instance : Takes advance 0 := ⟨fun _ => rfl⟩

instance : Takes halt 0 := ⟨fun _ _ => rfl⟩

instance : Takes fetch 1 := by unfold fetch; infer_instance

instance : Takes fetchWord 2 := by unfold fetchWord; infer_instance

instance (word : UInt16) : Takes (pushWord word) 2 := by unfold pushWord; infer_instance

instance : Takes popWord 2 := by unfold popWord; infer_instance

instance (flags : Flags) : Takes (setFlags flags) 0 := by unfold setFlags; infer_instance

instance (result : UInt8 × Flags) : Takes (setResult result) 0 := by
  unfold setResult; infer_instance

instance (address : UInt16) : Takes (goTo address) 0 := by unfold goTo; infer_instance

instance (operation : ByteOperation) (value : UInt8) : Takes (combineA operation value) 0 := by
  unfold combineA; infer_instance

instance (offset : UInt8) : Takes (jumpBy offset) 1 := by unfold jumpBy; infer_instance

instance (target : UInt16) : Takes (jumpTo target) 1 := by unfold jumpTo; infer_instance

instance (target : UInt16) : Takes (callTo target) 3 := by unfold callTo; infer_instance

instance : Takes returnToCaller 3 := by unfold returnToCaller; infer_instance

instance (place : Place) : Takes place.get place.beats := by
  cases place <;> simp only [Place.get] <;> infer_instance

instance (place : Place) (value : UInt8) : Takes (place.set value) place.beats := by
  cases place <;> simp only [Place.set] <;> infer_instance

instance (pointer : Pointer) : Takes pointer.take 0 := by
  cases pointer <;> simp only [Pointer.take] <;> infer_instance

instance (instruction : BitInstruction) : Takes instruction.perform instruction.beats := by
  cases instruction <;> rename_i place <;> cases place <;>
    simp only [BitInstruction.perform] <;> infer_instance

/-! ## Conditional instructions -/

/-- A fetch leaves the flags alone. -/
theorem fetch_flags (cpu : Cpu) :
    (fetch cpu).Meets fun _ out => out.2.regs.flags = cpu.regs.flags := by
  intro value
  show (if _ then _ else _ : Cpu).regs.flags = cpu.regs.flags
  split <;> rfl

theorem fetchWord_flags (cpu : Cpu) :
    (fetchWord cpu).Meets fun _ out => out.2.regs.flags = cpu.regs.flags := by
  refine (fetch_flags cpu).bind fun _ low keptLow => ?_
  refine (fetch_flags low.2).bind fun _ high keptHigh => ?_
  exact keptHigh.trans keptLow

/-- **A conditional instruction**: after `setup`, which leaves the flags alone, `taken` is carried out
if the condition holds of the flags as they were before. -/
theorem ticks_branch {setup : Microcode α} {taken : α → Microcode Unit} {n m : Nat}
    [first : Takes setup n] [second : ∀ value, Takes (taken value) m] {cpu : Cpu}
    (flags : (setup cpu).Meets fun _ out => out.2.regs.flags = cpu.regs.flags)
    (condition : Condition) :
    ((do
      let value ← setup
      if condition.holds (← look Registers.flags) then taken value : Microcode Unit) cpu).Meets
        fun calls _ => calls.count .tick = n + if condition.holds cpu.regs.flags then m else 0 := by
  refine ((first.ticks cpu).and flags).bind fun calls out done => ?_
  obtain ⟨spent, kept⟩ := done
  show Dialogue.Meets ((if condition.holds out.2.regs.flags then _ else _ : Microcode Unit) out.2) _
  rw [kept]
  split
  · refine ((second out.1).ticks out.2).mono fun more _ done => ?_
    rw [List.count_append, spent, done]
  · show List.count Call.tick (calls ++ []) = n + 0
    rw [List.append_nil, spent, Nat.add_zero]

/-- **How long each instruction takes** after the fetch of its opcode; the second page, whose length is
in its second byte, apart. -/
theorem ticks_perform {instruction : Instruction} (page : instruction ≠ .bits) (second : UInt8)
    (cpu : Cpu) : (instruction.perform cpu).Meets fun calls _ =>
      calls.count .tick = instruction.beats second cpu.regs.flags := by
  cases instruction with
  | bits => exact absurd rfl page
  | jumpRelativeIf condition => exact ticks_branch (fetch_flags cpu) condition
  | jumpIf condition => exact ticks_branch (fetchWord_flags cpu) condition
  | callIf condition => exact ticks_branch (fetchWord_flags cpu) condition
  | retIf condition =>
    have flags : (idle cpu).Meets fun _ out => out.2.regs.flags = cpu.regs.flags := rfl
    exact ticks_branch flags condition
  | increment place | decrement place =>
    cases place <;> simp only [Instruction.perform] <;> exact Takes.ticks cpu
  | _ => simp only [Instruction.perform]; exact Takes.ticks cpu

/-! ## No instruction is long -/

theorem ticks_perform_le (instruction : Instruction) (cpu : Cpu) :
    (instruction.perform cpu).Meets fun calls _ => calls.count .tick ≤ 5 := by
  by_cases page : instruction = .bits
  · subst page
    refine ((inferInstance : Takes fetch 1).ticks cpu).bind fun calls out fetched => ?_
    have performed := (inferInstance : Takes (BitInstruction.decode out.1).perform _).ticks out.2
    refine performed.mono fun more _ done => ?_
    have small := (BitInstruction.decode out.1).beats_le
    rw [List.count_append, fetched, done]
    omega
  · refine (ticks_perform page 0 cpu).mono fun calls _ done => ?_
    rw [done]
    exact instruction.beats_le 0 cpu.regs.flags

theorem ticks_execute_le (opcode : UInt8) (cpu : Cpu) :
    (execute opcode cpu).Meets fun calls _ => calls.count .tick ≤ 5 := by
  cases named : Instruction.decode opcode with
  | none =>
    unfold execute
    rw [named]
    exact Nat.zero_le 5
  | some instruction => exact meets_execute named (ticks_perform_le instruction cpu)

/-- A dispatch takes five M-cycles. -/
theorem ticks_dispatch (source : Interrupt) (cpu : Cpu) :
    (dispatch source cpu).Meets fun calls _ => calls.count .tick = 5 :=
  rfl

end Microcode

/-! ## Steps -/

namespace Cpu
open Microcode
variable {β : Type} [Bus β]

/-- The byte that a fetch reads now. -/
def nextByte (cpu : Cpu) (bus : β) : UInt8 := ((fetch cpu).run bus).1.1

/-- The byte that a second fetch reads after it. -/
def byteAfter (cpu : Cpu) (bus : β) : UInt8 :=
  match (fetch cpu).run bus with
  | ((_, fetched), bus) => fetched.nextByte bus

/-- The M-cycles of any instruction, the second page included. -/
theorem ticks_of_perform (instruction : Instruction) (cpu : Cpu) (bus : β) :
    ((instruction.perform cpu).record bus).1.count .tick =
      instruction.beats (cpu.nextByte bus) cpu.regs.flags := by
  by_cases page : instruction = .bits
  · subst page
    show ((Dialogue.bind (fetch cpu) fun out =>
      (BitInstruction.decode out.1).perform out.2).record bus).1.count .tick = _
    have fetched := ((inferInstance : Takes fetch 1).ticks cpu).of_record bus
    have performed := (@Takes.ticks _ _ _ (inferInstance :
      Takes (BitInstruction.decode (cpu.nextByte bus)).perform _) ((fetch cpu).run bus).1.2).of_record
        ((fetch cpu).run bus).2
    rw [Dialogue.record_bind]
    dsimp only
    rw [List.count_append, fetched, Dialogue.record_snd]
    exact congrArg (1 + ·) performed
  · exact (ticks_perform page _ cpu).of_record bus

/-- Executing an opcode that names an instruction makes the calls of that instruction, and succeeds. -/
theorem record_execute {opcode : UInt8} {instruction : Instruction}
    (named : Instruction.decode opcode = some instruction) (cpu : Cpu) (bus : β) :
    ((Microcode.execute opcode cpu).record bus).1 = ((instruction.perform cpu).record bus).1 ∧
      ((Microcode.execute opcode cpu).run bus).1.1 = some () := by
  unfold Microcode.execute
  rw [named]
  show ((Dialogue.bind (instruction.perform cpu) fun out => .done (some (), out.2)).record bus).1 = _ ∧
    ((Dialogue.bind (instruction.perform cpu) fun out => .done (some (), out.2)).run bus).1.1 = _
  rw [Dialogue.record_bind, Dialogue.run_bind]
  exact ⟨List.append_nil _, rfl⟩

/-- The flags that the instruction sees are those from before the fetch. -/
theorem flags_of_fetch (cpu : Cpu) (bus : β) :
    ((fetch cpu).run bus).1.2.regs.flags = cpu.regs.flags :=
  (fetch_flags cpu).of_run bus

/-- A fetch and the instruction it names: so many M-cycles, and no fault. -/
theorem ticks_of_instruct {cpu : Cpu} {bus : β} {instruction : Instruction}
    (named : Instruction.decode (cpu.nextByte bus) = some instruction) :
    (cpu.instruct.record bus).1.count .tick =
        1 + instruction.beats (cpu.byteAfter bus) cpu.regs.flags ∧
      ∃ spent, (cpu.instruct.record bus).2.1.result = .ok spent := by
  have fetched := ((inferInstance : Takes fetch 1).ticks cpu).of_record bus
  have performed := ticks_of_perform instruction ((fetch cpu).run bus).1.2 ((fetch cpu).run bus).2
  rw [flags_of_fetch] at performed
  -- The calls of the fetch, then those of the instruction; the end of the step makes none.
  obtain ⟨calls, went⟩ := record_execute named ((fetch cpu).run bus).1.2 ((fetch cpu).run bus).2
  unfold instruct
  simp only [bind, Dialogue.record_bind, Dialogue.record_snd]
  rw [show ((fetch cpu).run bus).1.1 = cpu.nextByte bus from rfl, calls]
  rcases ending : (Microcode.execute (cpu.nextByte bus) ((fetch cpu).run bus).1.2).run
    ((fetch cpu).run bus).2 with ⟨⟨result, after⟩, later⟩
  rw [ending] at went
  obtain rfl : result = some () := went
  dsimp only
  have total : ∀ outcome : Outcome, List.count Call.tick (((fetch cpu).record bus).1 ++
      (((instruction.perform ((fetch cpu).run bus).1.2).record ((fetch cpu).run bus).2).1 ++
        ((Dialogue.done outcome).record later).1)) =
      1 + instruction.beats (cpu.byteAfter bus) cpu.regs.flags := by
    intro outcome
    rw [List.count_append, List.count_append, fetched, performed]
    rfl
  split
  · exact ⟨total _, _, rfl⟩
  · exact ⟨total _, _, rfl⟩

/-- A running processor that has no fault, and no interrupt to serve, executes an instruction. -/
theorem record_step {cpu : Cpu} {bus : β} (healthy : cpu.fault = none) (awake : cpu.state = .running)
    (quiet : cpu.ime = false ∨ Bus.pending (Bus.poll bus) = 0) :
    cpu.step.record bus = (.poll :: (cpu.instruct.record (Bus.poll bus)).1,
      (cpu.instruct.record (Bus.poll bus)).2) := by
  have undisturbed : ¬ (cpu.ime && Bus.pending (Bus.poll bus) != 0) = true := by
    rcases quiet with off | none
    · simp [off]
    · simp [none]
  unfold step proceed
  simp only [healthy, awake, Dialogue.record, if_neg undisturbed]

theorem ticks_instruct_le (cpu : Cpu) :
    cpu.instruct.Meets fun calls _ => calls.count .tick ≤ 6 := by
  refine ((inferInstance : Takes fetch 1).ticks cpu).bind fun calls out fetched => ?_
  refine (ticks_execute_le out.1 out.2).bind fun more after executed => ?_
  have total : List.count Call.tick (calls ++ (more ++ [])) ≤ 6 := by
    rw [List.append_nil, List.count_append, fetched]
    omega
  rcases after with ⟨_ | _, after⟩
  · exact total
  · dsimp only
    split <;> exact total

theorem ticks_proceed_le (cpu : Cpu) :
    cpu.proceed.Meets fun calls _ => calls.count .tick ≤ 6 := by
  intro mask
  dsimp only
  split
  · split
    · refine (ticks_dispatch _ cpu).bind fun calls _ served => ?_
      show List.count Call.tick (calls ++ []) ≤ 6
      rw [List.append_nil, served]
      decide
    · exact Nat.zero_le 6
  · exact ticks_instruct_le cpu

/-- **No step is longer than six M-cycles.** -/
theorem ticks_step_le (cpu : Cpu) : cpu.step.Meets fun calls _ => calls.count .tick ≤ 6 := by
  have polled {rest : Dialogue Outcome} (h : rest.Meets fun calls _ => calls.count .tick ≤ 6) :
      (Dialogue.poll rest).Meets fun calls _ => calls.count .tick ≤ 6 :=
    h.mono fun calls _ few => by
      show List.count Call.tick (Call.poll :: calls) ≤ 6
      rwa [List.count_cons_of_ne (nofun : Call.poll ≠ .tick)]
  unfold step
  split
  · exact Nat.zero_le 6
  · refine polled ?_
    split
    · exact ticks_proceed_le cpu
    · exact fun mask => (by decide : 1 ≤ 6)
    · intro held
      dsimp only
      split
      · exact ticks_proceed_le _
      · exact (by decide : 1 ≤ 6)

/-- **Every instruction takes what the table says**: a step of a running processor that has no fault
and no interrupt to serve, and that fetches a legal opcode, passes exactly so many M-cycles and
reports four T-cycles for each.  Besides the opcode only the flags matter, and after the prefix of
the second page the byte that is fetched next; that a fetch may leave the program counter where it is
changes which byte that is, and nothing else. -/
theorem step_takes_mcycles {cpu : Cpu} {bus : β} (healthy : cpu.fault = none)
    (awake : cpu.state = .running) (quiet : cpu.ime = false ∨ Bus.pending (Bus.poll bus) = 0)
    (legal : cpu.nextByte (Bus.poll bus) ∉ Instruction.gaps) :
    let count := Instruction.mcycles (cpu.nextByte (Bus.poll bus)) (cpu.byteAfter (Bus.poll bus))
      cpu.regs.flags
    (cpu.step.record bus).1.count .tick = count ∧
      (cpu.step.run bus).1.result = .ok (4 * count) := by
  intro count
  obtain ⟨instruction, named⟩ : ∃ instruction,
      Instruction.decode (cpu.nextByte (Bus.poll bus)) = some instruction :=
    Option.ne_none_iff_exists'.mp fun unnamed =>
      legal ((Instruction.decode_eq_none_iff _).mp unnamed)
  obtain ⟨ticks, spent, went⟩ := ticks_of_instruct named
  -- The poll at the start of the step takes no time.
  have counted : (cpu.step.record bus).1.count .tick = count := by
    have timeless : Call.poll ≠ .tick := nofun
    rw [record_step healthy awake quiet]
    dsimp only
    rw [List.count_cons_of_ne timeless, ticks]
    exact (Instruction.mcycles_eq_beats named _ _).symm
  refine ⟨counted, ?_⟩
  have books := (tallies_step cpu).of_record bus
  have reported : (cpu.step.record bus).2.1.result = .ok spent := by
    rw [record_step healthy awake quiet]
    exact went
  rw [← Dialogue.record_snd, reported, books.reported spent reported, counted]

/-- A bus on which every byte is the same. -/
structure Monotone where
  byte : UInt8

instance : Bus Monotone where
  read bus _ := (bus.byte, bus)
  write bus _ _ := bus
  tick bus := bus
  pending _ := 0
  acknowledge bus _ := bus

/-- A call taken because the zero flag is clear: six M-cycles, although its opcode is fetched again as
the first byte of its operand. -/
theorem call_takes_six :
    let cpu : Cpu := { regs := {}, haltBug := true }
    (cpu.step.record (Monotone.mk 0xC4)).1.count .tick = 6 ∧
      (cpu.step.run (Monotone.mk 0xC4)).1.result = .ok 24 :=
  step_takes_mcycles rfl rfl (.inl rfl) (by decide)

end Cpu
end DotMatrix
