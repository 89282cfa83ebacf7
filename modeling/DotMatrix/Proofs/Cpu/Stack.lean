import DotMatrix.Proofs.Cpu.Confinement

/-! # Last in, first out

Calls and dispatches push the address at which to go on later, and returns take it up again.  On plain memory
this nests to any depth (`Cpu.last_in_first_out`).  One step that pushes is described by what it leaves in
memory (`Cpu.Pushes`), one that returns by what it finds there (`Cpu.Pops`).  Between them stands an invariant:
the words that have been pushed and not been popped lie below the old stack pointer in their order
(`Flat.Holds`), which a push extends because it reaches none of them, and which a pop reads off.
-/
namespace DotMatrix

/-! ## Words below an address -/

/-- The address so many bytes below another; addresses wrap. -/
def below (base : UInt16) (count : Nat) : UInt16 := base - UInt16.ofNat count

section
variable (base : UInt16) (count : Nat)

theorem below_zero : below base 0 = base := by simp [below]

theorem below_sub_one : below base count - 1 = below base (count + 1) := by
  have next : UInt16.ofNat (count + 1) = UInt16.ofNat count + 1 := UInt16.ofNat_add ..
  unfold below
  grind

theorem below_add_one : below base (count + 1) + 1 = below base count := by
  rw [← below_sub_one, UInt16.sub_add_cancel]

end

theorem below_inj {base : UInt16} {first second : Nat} (low : first < 65536) (low' : second < 65536) :
    below base first = below base second ↔ first = second := by
  rw [below, below, UInt16.sub_right_inj, ← UInt16.toNat_inj, UInt16.toNat_ofNat', UInt16.toNat_ofNat']
  omega

/-- A range that misses an address is not all of memory. -/
theorem lt_of_below_ne {base address : UInt16} {count : Nat}
    (clear : ∀ k < count, below base (k + 1) ≠ address) : count < 65536 := by
  refine Nat.lt_of_not_le fun all => clear (base - 1 - address).toNat ?_ ?_
  · exact Nat.lt_of_lt_of_le (UInt16.toNat_lt _) all
  · rw [← below_sub_one, below, UInt16.ofNat_toNat]
    grind

namespace Flat
variable {flat : Flat} {sp word : UInt16}

/-- The memory after a word has been pushed. -/
def pushed (flat : Flat) (sp word : UInt16) : Flat :=
  (flat.poke (sp - 1) (highByte word)).poke (sp - 1 - 1) (lowByte word)

/-- The word at the top of the stack. -/
def top (flat : Flat) (sp : UInt16) : UInt16 := wordOf (flat.peek (sp + 1)) (flat.peek sp)

theorem peek_congr {other : Flat} (same : flat.memory = other.memory) (address : UInt16) :
    flat.peek address = other.peek address := by
  rw [peek, peek, same]

theorem peek_acknowledge (source : Interrupt) {address : UInt16} (other : address ≠ 0xFF0F) :
    (flat.acknowledge source).peek address = flat.peek address :=
  (peek_poke ..).trans (if_neg other.symm)

end Flat

/-! ## Pairs -/

/-- Storing a byte as flags loses its lower half. -/
theorem Flags.toByte_ofByte : ∀ byte : UInt8, (ofByte byte).toByte = byte &&& 0xF0 :=
  forall_byte (by decide +kernel)

/-- A pair holds what is stored in it, but for the lower half of F. -/
theorem StackPair.get_set (pair : StackPair) (word : UInt16) (regs : Registers) :
    pair.get (pair.set word regs) =
      if pair = .af then wordOf (highByte word) (lowByte word &&& 0xF0) else word := by
  cases pair with
  | bc => exact regs.bc_setBc word
  | de => exact regs.de_setDe word
  | hl => exact regs.hl_setHl word
  | af => exact congrArg (wordOf (highByte word)) (Flags.toByte_ofByte (lowByte word))

/-! ## Calls, returns and pushes on plain memory -/

namespace Instruction
open Microcode
variable {instruction : Instruction} {cpu : Cpu} {memory : Flat}

/-- A call that is taken, those of a fixed address included. -/
def Calls (flags : Flags) : Instruction → Prop
  | call | restart _ => True
  | callIf condition => condition.holds flags = true
  | _ => False

/-- A return that is taken. -/
def Returns (flags : Flags) : Instruction → Prop
  | ret | retInterrupt => True
  | retIf condition => condition.holds flags = true
  | _ => False

/-- All calls are alike behind their operands. -/
theorem performWith_of_calls (taken : instruction.Calls cpu.regs.flags) (second third : UInt8) :
    ∃ target, instruction.performWith ([second, third].take instruction.operandBytes) cpu =
      callTo target cpu := by
  cases instruction with
  | call | restart => exact ⟨_, rfl⟩
  | callIf condition =>
    have holds : condition.holds cpu.regs.flags = true := taken
    refine ⟨wordOf third second, ?_⟩
    show (if condition.holds cpu.regs.flags then _ else _ : Microcode Unit) cpu = _
    rw [if_pos holds]
  | _ => exact taken.elim

/-- A call pushes the address behind it. -/
theorem run_of_calls (taken : instruction.Calls cpu.regs.flags) (plain : cpu.haltBug = false) :
    let done := (instruction.perform cpu).run memory
    (∃ target, done.1.2.regs = { cpu.regs with sp := cpu.regs.sp - 1 - 1, pc := target }) ∧
      done.2.memory = (memory.pushed cpu.regs.sp
        (cpu.regs.pc + UInt16.ofNat instruction.operandBytes)).memory := by
  intro done
  obtain ⟨target, same⟩ := @performWith_of_calls _ (cpu.past instruction.operandBytes) taken
    (memory.peek cpu.regs.pc) (memory.peek (cpu.regs.pc + 1))
  have talk : done = (callTo target (cpu.past instruction.operandBytes)).run
      { memory with ticks := memory.ticks + instruction.operandBytes } := by
    show (instruction.perform cpu).run memory = _
    rw [instruction.perform_of_plain plain, Dialogue.run_bind, memory.run_readFrom _ instruction.operandBytes_le,
      same]
  rw [talk]
  exact ⟨⟨target, rfl⟩, rfl⟩

/-- A return goes on at the address at the top of the stack. -/
theorem run_of_returns (taken : instruction.Returns cpu.regs.flags) :
    let done := (instruction.perform cpu).run memory
    done.1.2.regs = { cpu.regs with sp := cpu.regs.sp + 1 + 1, pc := memory.top cpu.regs.sp } ∧
      done.2.memory = memory.memory := by
  intro done
  cases instruction with
  | ret | retInterrupt => exact ⟨rfl, rfl⟩
  | retIf condition =>
    have holds : condition.holds cpu.regs.flags = true := taken
    have same : (retIf condition).perform cpu =
        .tick (returnToCaller { cpu with cycles := cpu.cycles + 4 }) := by
      show Dialogue.tick ((if condition.holds cpu.regs.flags then _ else _ : Microcode Unit) _) = _
      rw [if_pos holds]
    have talk : done = (Dialogue.tick (returnToCaller { cpu with cycles := cpu.cycles + 4 })).run memory :=
      congrArg (Dialogue.run · memory) same
    rw [talk]
    exact ⟨rfl, rfl⟩
  | _ => exact taken.elim

end Instruction

namespace Cpu
open Instruction
variable {cpu : Cpu} {memory : Flat} {instruction : Instruction}

/-! ## Steps that push and steps that return -/

/-- A step that pushes a word, and goes on somewhere. -/
structure Pushes (cpu : Cpu) (memory : Flat) (word : UInt16) : Prop where
  regs : ∃ target, (cpu.step.run memory).1.cpu.regs =
    { cpu.regs with sp := cpu.regs.sp - 1 - 1, pc := target }
  high : (cpu.step.run memory).2.peek (cpu.regs.sp - 1) = highByte word
  low : (cpu.step.run memory).2.peek (cpu.regs.sp - 1 - 1) = lowByte word
  rest : ∀ address, address ≠ cpu.regs.sp - 1 → address ≠ cpu.regs.sp - 1 - 1 → address ≠ 0xFF0F →
    (cpu.step.run memory).2.peek address = memory.peek address

/-- A step that goes on at the address at the top of the stack. -/
structure Pops (cpu : Cpu) (memory : Flat) : Prop where
  regs : (cpu.step.run memory).1.cpu.regs =
    { cpu.regs with sp := cpu.regs.sp + 1 + 1, pc := memory.top cpu.regs.sp }
  memory : ∀ address, (cpu.step.run memory).2.peek address = memory.peek address

/-- The address behind an instruction that comes next: its opcode, unless that byte is to be read twice and so
is an operand as well, and its operands. -/
def behind (cpu : Cpu) (instruction : Instruction) : UInt16 :=
  cpu.fetched.regs.pc + UInt16.ofNat instruction.operandBytes

/-- **A step that enters a routine**, by a call that is taken or by a dispatch, and the address at which the
routine is to go on when it returns. -/
inductive Enters (cpu : Cpu) (memory : Flat) : UInt16 → Prop where
  | called {instruction : Instruction} (executed : (cpu.step.run memory).1.instruction? = some instruction)
    (taken : instruction.Calls cpu.regs.flags) : Enters cpu memory (cpu.behind instruction)
  | interrupted {source : Interrupt} (deed : (cpu.step.run memory).1.deed = .dispatch source) :
    Enters cpu memory cpu.regs.pc

/-- **A step that leaves a routine**, by a return that is taken. -/
def Exits (cpu : Cpu) (memory : Flat) : Prop :=
  ∃ instruction, (cpu.step.run memory).1.instruction? = some instruction ∧ instruction.Returns cpu.regs.flags

/-- What a step leaves is what the instruction leaves that it executes. -/
theorem run_of_instruction (executed : (cpu.step.run memory).1.instruction? = some instruction) :
    let done := (instruction.perform (fetched { cpu with state := .running })).run memory.tick
    (cpu.step.run memory).1.cpu.regs = done.1.2.regs ∧ (cpu.step.run memory).2 = done.2 := by
  intro done
  cases deed : (cpu.step.run memory).1.deed with
  | execute address opcode _ =>
    obtain ⟨talk, -, rfl⟩ := record_of_execute deed
    have named : Instruction.decode (Bus.read (Bus.poll memory) cpu.regs.pc).1 = some instruction := by
      simpa only [Outcome.instruction?, deed] using executed
    rw [@record_instruct_of_named Flat _ { cpu with state := .running } _ _ named] at talk
    rw [← Dialogue.record_snd, talk, Dialogue.record_snd]
    exact ⟨regs_settled .., rfl⟩
  | _ => simp [Outcome.instruction?, deed] at executed

theorem pushes_of_memory {word : UInt16} {before : Flat}
    (regs : ∃ target, (cpu.step.run memory).1.cpu.regs =
      { cpu.regs with sp := cpu.regs.sp - 1 - 1, pc := target })
    (stored : (cpu.step.run memory).2.memory = (before.pushed cpu.regs.sp word).memory)
    (kept : ∀ address ≠ 0xFF0F, before.peek address = memory.peek address) : cpu.Pushes memory word where
  regs := regs
  high := by
    have apart : cpu.regs.sp - 1 - 1 ≠ cpu.regs.sp - 1 := by grind
    rw [Flat.peek_congr stored, Flat.pushed, Flat.peek_poke, if_neg apart, Flat.peek_poke, if_pos rfl]
  low := by rw [Flat.peek_congr stored, Flat.pushed, Flat.peek_poke, if_pos rfl]
  rest address first second third := by
    rw [Flat.peek_congr stored, Flat.pushed, Flat.peek_poke, if_neg second.symm, Flat.peek_poke,
      if_neg first.symm, kept address third]

/-- A dispatch, whether the processor was awake or is woken for it. -/
theorem replay_of_dispatch {source : Interrupt} (deed : (cpu.step.run memory).1.deed = .dispatch source) :
    (cpu.step.run memory).1.cpu.regs = (cpu.serving source).regs ∧
      (cpu.step.run memory).2 = (memory.acknowledge source).tick.tick.replay
        (pushCalls cpu.regs.sp cpu.regs.pc ++ [.tick]) := by
  have step := cpu.steps_step.of_record memory
  rw [Dialogue.record_snd] at step
  rw [Flat.run_snd]
  generalize (cpu.step.run memory).1 = outcome at step deed
  generalize (cpu.step.record memory).1 = calls at step
  cases step with
  | awake _ _ turn | woken _ _ turn =>
    cases turn with
    | dispatched other =>
      obtain rfl : other = source := Deed.dispatch.inj deed
      exact ⟨rfl, rfl⟩
    | overlooked | failed | executed => cases deed
  | refused | halted | stopped => cases deed

/-- **Whatever enters a routine pushes where it is to go on.** -/
theorem Enters.pushes {word : UInt16} (enters : cpu.Enters memory word) : cpu.Pushes memory word := by
  cases enters with
  | called executed taken =>
    obtain ⟨regs, after⟩ := run_of_instruction executed
    obtain ⟨⟨target, moved⟩, stored⟩ := @run_of_calls _ (fetched { cpu with state := .running }) memory.tick
      taken rfl
    exact pushes_of_memory ⟨target, regs.trans moved⟩ ((congrArg Flat.memory after).trans stored)
      fun _ _ => rfl
  | @interrupted source deed =>
    obtain ⟨regs, after⟩ := replay_of_dispatch deed
    have stored : (cpu.step.run memory).2.memory =
        ((memory.acknowledge source).pushed cpu.regs.sp cpu.regs.pc).memory := by
      rw [after]
      rfl
    exact pushes_of_memory ⟨_, regs⟩ stored fun _ other => Flat.peek_acknowledge source other

theorem Exits.pops (exits : cpu.Exits memory) : cpu.Pops memory := by
  obtain ⟨instruction, executed, taken⟩ := exits
  obtain ⟨regs, after⟩ := run_of_instruction executed
  obtain ⟨moved, kept⟩ := @run_of_returns _ (fetched { cpu with state := .running }) memory.tick taken
  exact ⟨regs.trans moved, fun address => Flat.peek_congr ((congrArg Flat.memory after).trans kept) address⟩

end Cpu

/-! ## The words on the stack -/

/-- The first `depth` of these words lie below an address, one below the other. -/
structure Flat.Holds (memory : Flat) (base : UInt16) (words : Nat → UInt16) (depth : Nat) : Prop where
  high : ∀ j < depth, memory.peek (below base (2 * j + 1)) = highByte (words j)
  low : ∀ j < depth, memory.peek (below base (2 * j + 1 + 1)) = lowByte (words j)

namespace Cpu
variable {cpu : Cpu} {memory : Flat} {start : Registers} {words : Nat → UInt16} {depth : Nat}

/-- **In the midst of so many routines**: the words at which they go on are on the stack, and but for the stack
pointer and the program counter the registers are as they were at the start. -/
structure Nested (start : Registers) (words : Nat → UInt16) (depth : Nat) (cpu : Cpu) (memory : Flat) :
    Prop where
  holds : memory.Holds start.sp words depth
  regs : ∃ pc, cpu.regs = { start with sp := below start.sp (2 * depth), pc := pc }

theorem Nested.sp (nested : Nested start words depth cpu memory) : cpu.regs.sp = below start.sp (2 * depth) := by
  obtain ⟨pc, regs⟩ := nested.regs
  rw [regs]

theorem nested_start (cpu : Cpu) (memory : Flat) (words : Nat → UInt16) :
    Nested cpu.regs words 0 cpu memory where
  holds := ⟨fun _ early => absurd early (Nat.not_lt_zero _), fun _ early => absurd early (Nat.not_lt_zero _)⟩
  regs := ⟨cpu.regs.pc, by rw [Nat.mul_zero, below_zero]⟩

/-- **A push puts its word below the others**, and reaches none of them. -/
theorem Nested.enter (nested : Nested start words depth cpu memory)
    (pushes : cpu.Pushes memory (words depth)) (small : 2 * (depth + 1) < 65536)
    (clear : ∀ k < 2 * (depth + 1), below start.sp (k + 1) ≠ 0xFF0F) :
    Nested start words (depth + 1) (cpu.step.run memory).1.cpu (cpu.step.run memory).2 := by
  have first : cpu.regs.sp - 1 = below start.sp (2 * depth + 1) := by rw [nested.sp, below_sub_one]
  have second : cpu.regs.sp - 1 - 1 = below start.sp (2 * depth + 1 + 1) := by rw [first, below_sub_one]
  have kept (k : Nat) (early : k < 2 * depth) :
      (cpu.step.run memory).2.peek (below start.sp (k + 1)) = memory.peek (below start.sp (k + 1)) := by
    refine pushes.rest _ ?_ ?_ (clear k (by omega))
    · rw [first, Ne, below_inj (by omega) (by omega)]
      omega
    · rw [second, Ne, below_inj (by omega) (by omega)]
      omega
  refine ⟨⟨fun j early => ?_, fun j early => ?_⟩, ?_⟩
  · obtain earlier | rfl := Nat.lt_succ_iff_lt_or_eq.mp early
    · rw [kept _ (by omega), nested.holds.high j earlier]
    · rw [← first, pushes.high]
  · obtain earlier | rfl := Nat.lt_succ_iff_lt_or_eq.mp early
    · rw [kept _ (by omega), nested.holds.low j earlier]
    · rw [← second, pushes.low]
  · obtain ⟨target, moved⟩ := pushes.regs
    obtain ⟨pc, regs⟩ := nested.regs
    rw [moved, second, regs]
    exact ⟨target, rfl⟩

/-- **A return takes up the last of the words.** -/
theorem Nested.exit (nested : Nested start words (depth + 1) cpu memory) (pops : cpu.Pops memory) :
    Nested start words depth (cpu.step.run memory).1.cpu (cpu.step.run memory).2 ∧
      (cpu.step.run memory).1.cpu.regs.pc = words depth := by
  have first : cpu.regs.sp + 1 = below start.sp (2 * depth + 1) := by
    rw [nested.sp, Nat.mul_succ, below_add_one]
  have top : memory.top cpu.regs.sp = words depth := by
    rw [Flat.top, first, nested.sp, Nat.mul_succ, nested.holds.high depth (Nat.lt_succ_self _),
      nested.holds.low depth (Nat.lt_succ_self _), wordOf_highByte_lowByte]
  obtain ⟨pc, regs⟩ := nested.regs
  refine ⟨⟨⟨fun j early => ?_, fun j early => ?_⟩, words depth, ?_⟩, ?_⟩
  · rw [pops.memory, nested.holds.high j (by omega)]
  · rw [pops.memory, nested.holds.low j (by omega)]
  · rw [pops.regs, top, first, below_add_one, regs]
  · rw [pops.regs, top]

/-! ## Runs -/

/-- After so many entries. -/
theorem nested_of_enters {n : Nat}
    (enters : ∀ i < n, (cpu.steps memory i).1.Enters (cpu.steps memory i).2 (words i))
    (clear : ∀ k < 2 * n, below cpu.regs.sp (k + 1) ≠ 0xFF0F) :
    Nested cpu.regs words n (cpu.steps memory n).1 (cpu.steps memory n).2 := by
  have small := lt_of_below_ne clear
  induction n with
  | zero => exact nested_start cpu memory words
  | succ n ih =>
    have nested := ih (fun i early => enters i (by omega)) (fun k early => clear k (by omega)) (by omega)
    exact nested.enter (enters n (Nat.lt_succ_self n)).pushes small clear

/-- After so many exits, of which each goes on where the last entry that is still open asked for. -/
theorem nested_of_exits {n : Nat} (nested : Nested cpu.regs words n (cpu.steps memory n).1 (cpu.steps memory n).2)
    (exits : ∀ i < n, (cpu.steps memory (n + i)).1.Exits (cpu.steps memory (n + i)).2) {i : Nat} (le : i ≤ n) :
    Nested cpu.regs words (n - i) (cpu.steps memory (n + i)).1 (cpu.steps memory (n + i)).2 := by
  induction i with
  | zero => exact nested
  | succ i ih =>
    have before := ih (by omega)
    rw [show n - i = n - (i + 1) + 1 by omega] at before
    exact (before.exit (exits i le).pops).1

/-! ## Pairs on the stack -/

theorem pushes_of_push {pair : StackPair}
    (executed : (cpu.step.run memory).1.instruction? = some (.push pair)) :
    cpu.Pushes memory (pair.get cpu.regs) := by
  obtain ⟨regs, after⟩ := run_of_instruction executed
  refine pushes_of_memory ⟨_, regs⟩ ((congrArg Flat.memory after).trans ?_) fun _ _ => rfl
  cases pair <;> rfl

theorem regs_of_pop {pair : StackPair} (executed : (cpu.step.run memory).1.instruction? = some (.pop pair)) :
    ∃ pc, (cpu.step.run memory).1.cpu.regs =
      pair.set (memory.top cpu.regs.sp) { cpu.regs with sp := cpu.regs.sp + 1 + 1, pc := pc } :=
  ⟨_, (run_of_instruction executed).1⟩

/-! ## The stack as a whole -/

/-- **So many returns take back so many calls**, where the calls are to go on at these words: the returns go on
at the last word first, and in the end all registers are as before, but for the program counter. -/
structure Unwinds (cpu : Cpu) (memory : Flat) (n : Nat) (words : Nat → UInt16) : Prop where
  pc : ∀ i < n, (cpu.steps memory (n + i + 1)).1.regs.pc = words (n - 1 - i)
  regs : ∃ pc, (cpu.steps memory (2 * n)).1.regs = { cpu.regs with pc := pc }

/-- **A PUSH and a POP copy a pair**, by way of the two bytes below the stack pointer. -/
structure Copies (cpu : Cpu) (memory : Flat) (source target : StackPair) : Prop where
  high : (cpu.steps memory 1).2.peek (cpu.regs.sp - 1) = highByte (source.get cpu.regs)
  low : (cpu.steps memory 1).2.peek (cpu.regs.sp - 2) = lowByte (source.get cpu.regs)
  sp : (cpu.steps memory 2).1.regs.sp = cpu.regs.sp
  /-- F keeps its upper half only. -/
  copied : target.get (cpu.steps memory 2).1.regs = if target = .af
    then wordOf (highByte (source.get cpu.regs)) (lowByte (source.get cpu.regs) &&& 0xF0)
    else source.get cpu.regs
  /-- No other register changes. -/
  rest : ∃ pc, (cpu.steps memory 2).1.regs = target.set (source.get cpu.regs) { cpu.regs with pc := pc }

/-- **The stack is last in, first out**, on plain memory, from wherever the stack pointer is; addresses wrap. -/
structure LastInFirstOut (cpu : Cpu) (memory : Flat) : Prop where
  /-- At any depth, if the next steps are so many entries and then as many exits, and no byte that is pushed
  lies where a dispatch takes its request. -/
  unwinds : ∀ (n : Nat) (words : Nat → UInt16),
    (∀ i < n, (cpu.steps memory i).1.Enters (cpu.steps memory i).2 (words i)) →
    (∀ i < n, (cpu.steps memory (n + i)).1.Exits (cpu.steps memory (n + i)).2) →
    (∀ k < 2 * n, below cpu.regs.sp (k + 1) ≠ 0xFF0F) → cpu.Unwinds memory n words
  /-- For all pairs, if the next two steps are a PUSH and a POP. -/
  copies : ∀ source target, (cpu.outcomeAt memory 0).instruction? = some (.push source) →
    (cpu.outcomeAt memory 1).instruction? = some (.pop target) → cpu.Copies memory source target

theorem unwinds {n : Nat}
    (enters : ∀ i < n, (cpu.steps memory i).1.Enters (cpu.steps memory i).2 (words i))
    (exits : ∀ i < n, (cpu.steps memory (n + i)).1.Exits (cpu.steps memory (n + i)).2)
    (clear : ∀ k < 2 * n, below cpu.regs.sp (k + 1) ≠ 0xFF0F) : cpu.Unwinds memory n words := by
  have nested := nested_of_enters enters clear
  constructor
  case pc =>
    intro i early
    have before := nested_of_exits nested exits (Nat.le_of_lt early)
    rw [show n - i = n - 1 - i + 1 by omega] at before
    exact (before.exit (exits i early).pops).2
  case regs =>
    obtain ⟨pc, regs⟩ := (nested_of_exits nested exits (Nat.le_refl n)).regs
    rw [Nat.sub_self, Nat.mul_zero, below_zero] at regs
    rw [Nat.two_mul]
    exact ⟨pc, regs⟩

theorem copies {source target : StackPair} (push : (cpu.outcomeAt memory 0).instruction? = some (.push source))
    (pop : (cpu.outcomeAt memory 1).instruction? = some (.pop target)) :
    cpu.Copies memory source target := by
  have pushes : cpu.Pushes memory (source.get cpu.regs) := pushes_of_push push
  obtain ⟨pc, moved⟩ := pushes.regs
  obtain ⟨onward, popped⟩ := regs_of_pop pop
  have second : cpu.regs.sp - 1 - 1 = cpu.regs.sp - 2 := by grind
  have low : (cpu.steps memory 1).1.regs.sp = cpu.regs.sp - 1 - 1 := congrArg Registers.sp moved
  have high : (cpu.steps memory 1).1.regs.sp + 1 = cpu.regs.sp - 1 := by
    rw [low, UInt16.sub_add_cancel]
  have top : (cpu.steps memory 1).2.top (cpu.steps memory 1).1.regs.sp = source.get cpu.regs := by
    rw [Flat.top, high, low]
    exact (congr (congrArg wordOf pushes.high) pushes.low).trans (wordOf_highByte_lowByte _)
  have regs : (cpu.steps memory 2).1.regs = target.set (source.get cpu.regs) { cpu.regs with pc := onward } := by
    have same : (cpu.steps memory 1).1.regs = _ := moved
    refine popped.trans ?_
    rw [top, high, UInt16.sub_add_cancel, same]
  exact {
    high := pushes.high
    low := second ▸ pushes.low
    sp := by rw [regs]; cases target <;> rfl
    copied := by rw [regs, StackPair.get_set]
    rest := ⟨onward, regs⟩ }

/-- **Calls nest, and pairs can be copied by way of the stack.** -/
theorem last_in_first_out (cpu : Cpu) (memory : Flat) : cpu.LastInFirstOut memory :=
  ⟨fun _ _ => unwinds, fun _ _ => copies⟩

/-- RST and CALL, one in the other, and then RET and RETI; and PUSH AF before POP BC. -/
theorem last_in_first_out_of_two_calls :
    let cpu : Cpu := { regs := { sp := 0x0020, a := 0x12, flags := { carry := true } } }
    let nested := ({} : Flat).load 0 [0xCF, 0, 0, 0, 0, 0, 0, 0, 0xCD, 0x10, 0, 0xD9, 0, 0, 0, 0, 0xC9]
    let copied := ({} : Flat).load 0 [0xF5, 0xC1]
    cpu.Unwinds nested 2 (fun i => if i = 0 then 0x0001 else 0x000B) ∧ cpu.Copies copied .af .bc := by
  intro cpu nested copied
  have first : (cpu.steps nested 0).1.behind (.restart 1) = 0x0001 := by decide +kernel
  have second : (cpu.steps nested 1).1.behind .call = 0x000B := by decide +kernel
  refine ⟨(last_in_first_out cpu nested).unwinds 2 _ ?_ ?_ ?_,
    (last_in_first_out cpu copied).copies .af .bc (by decide +kernel) (by decide +kernel)⟩
  · intro i early
    obtain rfl | rfl : i = 0 ∨ i = 1 := by omega
    · exact first ▸ .called (by decide +kernel) trivial
    · exact second ▸ .called (by decide +kernel) trivial
  · intro i early
    obtain rfl | rfl : i = 0 ∨ i = 1 := by omega
    · exact ⟨.ret, by decide +kernel, trivial⟩
    · exact ⟨.retInterrupt, by decide +kernel, trivial⟩
  · decide

end Cpu
end DotMatrix
