import DotMatrix.Cpu.Progress

/-! # When interrupts become enabled

IME is driven by three instructions, by dispatches, and by the wish that EI leaves behind for the end
of the instruction after it.  This module first says what every kind of step does to IME and to the
wish (`Passage`), then reads off the rules of IME along a whole run.  The documented rules
(`Disciplined`) hold of a run exactly when no dispatch carries a wish into the handler: a dispatch
clears IME but leaves the wish standing, so an EI executed while IME is on lets IME rise after the
first instruction of the handler.
-/
namespace DotMatrix

namespace Instruction

/-- IME after an instruction, from IME and the wish for it before. -/
def imeAfter (instruction : Instruction) (ime enabling : Bool) : Bool :=
  match instruction with
  | disableInterrupts => false
  | retInterrupt => true
  | _ => ime || enabling

/-- Whether IME is still to rise after an instruction.  A second EI finds the wish of the first
fulfilled at its own end and leaves none. -/
def enablingAfter (instruction : Instruction) (enabling : Bool) : Bool :=
  match instruction with
  | enableInterrupts => !enabling
  | _ => false

theorem imeAfter_of_enabling {instruction : Instruction} {ime : Bool}
    (h : instruction ≠ disableInterrupts) : instruction.imeAfter ime true = true := by
  cases instruction <;> first | contradiction | simp [imeAfter]

theorem imeAfter_of_ime {instruction : Instruction} {enabling : Bool}
    (h : instruction ≠ disableInterrupts) : instruction.imeAfter true enabling = true := by
  cases instruction <;> first | contradiction | simp [imeAfter]

/-- Without a wish only RETI makes IME rise. -/
theorem eq_retInterrupt_of_imeAfter {instruction : Instruction}
    (h : instruction.imeAfter false false = true) : instruction = retInterrupt := by
  cases instruction <;> first | rfl | simp [imeAfter] at h

theorem ne_disableInterrupts_of_imeAfter {instruction : Instruction} {ime enabling : Bool}
    (h : instruction.imeAfter ime enabling = true) : instruction ≠ disableInterrupts := by
  rintro rfl
  simp [imeAfter] at h

/-- Only EI leaves a wish behind. -/
theorem eq_enableInterrupts_of_enablingAfter {instruction : Instruction} {enabling : Bool}
    (h : instruction.enablingAfter enabling = true) : instruction = enableInterrupts := by
  cases instruction <;> first | rfl | simp [enablingAfter] at h

end Instruction

/-- The instruction that a step carried out, if it carried one out. -/
def Outcome.instruction? (outcome : Outcome) : Option Instruction :=
  match outcome.deed with
  | .execute _ opcode _ => Instruction.decode opcode
  | _ => none

namespace Cpu
open Microcode Instruction

/-! ## What a step does to IME -/

/-- All that a step can do to IME, to the wish for it, and to the state in which the next step finds
the processor. -/
inductive Passage (before : Cpu) (outcome : Outcome) : Prop where
  | refused (deed : outcome.deed = .refuse) (faulty : before.fault ≠ none)
    (same : outcome.cpu = before)
  | waited (deed : outcome.deed = .wait) (healthy : before.fault = none)
    (asleep : before.state ≠ .running) (ime : outcome.cpu.ime = before.ime)
    (enabling : outcome.cpu.enabling = before.enabling)
  | overlooked (deed : outcome.deed = .overlook) (served : before.ime = true)
    (awake : outcome.cpu.state = .running) (ime : outcome.cpu.ime = true)
    (enabling : outcome.cpu.enabling = before.enabling)
  | dispatched (source : Interrupt) (deed : outcome.deed = .dispatch source)
    (healthy : before.fault = none) (served : before.ime = true) (awake : outcome.cpu.state = .running)
    (ime : outcome.cpu.ime = false) (enabling : outcome.cpu.enabling = before.enabling)
  | failed (address : UInt16) (opcode : UInt8) (fetched : Cpu)
    (deed : outcome.deed = .execute address opcode fetched)
    (unnamed : Instruction.decode opcode = none) (faulty : outcome.cpu.fault ≠ none)
    (ime : outcome.cpu.ime = before.ime)
  | executed (instruction : Instruction) (done : outcome.instruction? = some instruction)
    (healthy : before.fault = none)
    (awake : instruction = .enableInterrupts → outcome.cpu.state = .running)
    (ime : outcome.cpu.ime = instruction.imeAfter before.ime before.enabling)
    (enabling : outcome.cpu.enabling = instruction.enablingAfter before.enabling)

/-- A fetch leaves the processor running. -/
theorem fetch_state (cpu : Cpu) : (fetch cpu).Meets fun _ out => out.2.state = cpu.state := by
  intro value
  show (if _ then _ else _ : Cpu).state = cpu.state
  split <;> rfl

/-- A dispatch takes IME away and leaves the wish for it. -/
theorem dispatch_gate (source : Interrupt) (cpu : Cpu) :
    (dispatch source cpu).Meets fun _ out =>
      out.2.ime = false ∧ out.2.enabling = cpu.enabling ∧ out.2.state = cpu.state :=
  ⟨rfl, rfl, rfl⟩

/-- The processor right after an instruction, before the wish from before it is looked at. -/
structure Carried (instruction : Instruction) (before after : Cpu) : Prop where
  ime : after.ime = instruction.imeAfter before.ime false
  enabling : after.enabling = (instruction.enablingAfter false ||
    before.enabling && instruction != .disableInterrupts)
  state : instruction = .enableInterrupts → after.state = before.state

theorem carried_perform (instruction : Instruction) (cpu : Cpu) :
    (instruction.perform cpu).Meets fun _ out => Carried instruction cpu out.2 := by
  -- Three instructions reach the gate; all others are work behind it.
  by_cases noDi : instruction = .disableInterrupts
  · subst noDi
    exact ⟨rfl, by simp [enablingAfter], nofun⟩
  by_cases noEi : instruction = .enableInterrupts
  · subst noEi
    exact ⟨by simp [imeAfter], by simp [enablingAfter], fun _ => rfl⟩
  by_cases noReti : instruction = .retInterrupt
  · subst noReti
    intro low high
    exact ⟨rfl, by simp [enablingAfter], nofun⟩
  · refine ((works_perform noDi noEi noReti).work cpu).mono fun _ out done => ?_
    obtain ⟨ime, enabling⟩ := done.gate_eq
    refine ⟨?_, ?_, fun h => absurd h noEi⟩
    · rw [ime]
      cases instruction <;> first | contradiction | simp [imeAfter]
    · rw [enabling]
      cases instruction <;> first | contradiction | simp [enablingAfter]

/-- A wish from before the instruction is fulfilled at its end, unless the instruction was DI. -/
theorem Carried.wish {instruction : Instruction} {before after : Cpu}
    (h : Carried instruction before after) (wish : before.enabling = true) :
    after.enabling = (instruction != .disableInterrupts) := by
  rw [h.enabling, wish, Bool.true_and]
  cases instruction <;> rfl

theorem Carried.no_wish {instruction : Instruction} {before after : Cpu}
    (h : Carried instruction before after) (wish : before.enabling = false) :
    after.enabling = instruction.enablingAfter false := by
  rw [h.enabling, wish, Bool.false_and, Bool.or_false]

/-- **The end of an instruction**, as `instruct` writes it. -/
theorem passage_finish {instruction : Instruction} {before fetched after : Cpu} {address : UInt16}
    {opcode : UInt8} (named : Instruction.decode opcode = some instruction)
    (healthy : before.fault = none) (awake : before.state = .running)
    (ime : fetched.ime = before.ime) (enabling : fetched.enabling = before.enabling)
    (state : fetched.state = before.state) (done : Carried instruction fetched after) :
    Passage before (if before.enabling && after.enabling
      then finish before.cycles (.execute address opcode fetched)
        { after with ime := true, enabling := false }
      else finish before.cycles (.execute address opcode fetched) after) := by
  have running (h : instruction = .enableInterrupts) : after.state = .running := by
    rw [done.state h, state, awake]
  cases wish : before.enabling with
  | false =>
    rw [Bool.false_and]
    refine .executed instruction named healthy running ?_ ?_
    · rw [wish, ← ime]
      exact done.ime
    · rw [wish]
      exact done.no_wish (enabling.trans wish)
  | true =>
    rw [done.wish (enabling.trans wish), Bool.true_and]
    by_cases noDi : instruction = .disableInterrupts
    · subst noDi
      refine .executed .disableInterrupts named healthy nofun ?_ ?_
      · exact done.ime
      · exact done.wish (enabling.trans wish)
    · rw [bne_iff_ne.mpr noDi]
      refine .executed instruction named healthy running ?_ ?_
      · rw [wish, imeAfter_of_enabling noDi]
        rfl
      · rw [wish]
        cases instruction <;> rfl

theorem passage_instruct {cpu : Cpu} (healthy : cpu.fault = none) (awake : cpu.state = .running) :
    cpu.instruct.Meets fun _ => Passage cpu := by
  have fetched := ((inferInstance : Works false fetch).work cpu).and (fetch_state cpu)
  refine fetched.bind fun _ out done => ?_
  obtain ⟨kept, state⟩ := done
  obtain ⟨ime, enabling⟩ := kept.gate_eq
  cases named : Instruction.decode out.1 with
  | none =>
    simp only [Microcode.execute, named]
    exact .failed cpu.regs.pc out.1 out.2 rfl named (by simp [fail]) ime
  | some instruction =>
    have carried : (Microcode.execute out.1 out.2).Meets fun _ result =>
        result.1 = some () ∧ Carried instruction out.2 result.2 :=
      meets_execute named ((carried_perform instruction out.2).mono fun _ _ done => ⟨rfl, done⟩)
    refine carried.bind fun _ result done => ?_
    obtain ⟨result, after⟩ := result
    obtain ⟨rfl, done⟩ := done
    have passed := @passage_finish _ _ _ _ cpu.regs.pc _ named healthy awake ime enabling state done
    dsimp only
    split at passed <;> rename_i stands
    · rw [if_pos stands]
      exact passed
    · rw [if_neg stands]
      exact passed

theorem passage_proceed {cpu : Cpu} (healthy : cpu.fault = none) (awake : cpu.state = .running) :
    cpu.proceed.Meets fun _ => Passage cpu := by
  intro mask
  dsimp only
  split
  · rename_i waits
    have served : cpu.ime = true := by
      rw [Bool.and_eq_true] at waits
      exact waits.1
    split
    · rename_i source _
      refine (dispatch_gate source cpu).bind fun _ out done => ?_
      obtain ⟨ime, enabling, state⟩ := done
      exact .dispatched source rfl healthy served (state.trans awake) ime enabling
    · exact .overlooked rfl served awake served rfl
  · exact passage_instruct healthy awake

/-- A processor woken by a button goes on like one that was awake. -/
theorem Passage.of_awake {cpu : Cpu} {outcome : Outcome}
    (h : Passage { cpu with state := .running } outcome) (healthy : cpu.fault = none) :
    Passage cpu outcome := by
  cases h with
  | refused deed faulty same => exact absurd healthy faulty
  | waited deed healthy asleep => exact absurd rfl asleep
  | overlooked deed served awake ime enabling => exact .overlooked deed served awake ime enabling
  | dispatched source deed healthy served awake ime enabling =>
    exact .dispatched source deed healthy served awake ime enabling
  | failed address opcode fetched deed unnamed faulty ime =>
    exact .failed address opcode fetched deed unnamed faulty ime
  | executed instruction done healthy awake ime enabling =>
    exact .executed instruction done healthy awake ime enabling

/-- **What a step does to IME**, for every processor and whatever the bus answers. -/
theorem passage_step (cpu : Cpu) : cpu.step.Meets fun _ => Passage cpu := by
  unfold step
  split
  · rename_i fault faulty
    exact .refused rfl (by simp [faulty]) rfl
  rename_i healthy
  split
  · rename_i awake
    exact passage_proceed healthy awake
  · rename_i halted
    intro mask
    refine .waited rfl healthy (by simp [halted]) ?_ ?_ <;> dsimp only [finish] <;> split <;> rfl
  · rename_i stopped
    intro held
    dsimp only
    split
    · have woken := @passage_proceed { cpu with state := .running } healthy rfl
      exact woken.mono fun _ _ passage => passage.of_awake healthy
    · exact .waited rfl healthy (by simp [stopped]) rfl rfl

/-! ## Runs -/

/-- A run of steps from a new processor.  Between two steps whoever owns the processor may change the
registers, the cycle count and the bus, but nothing else. -/
structure Course (β : Type) [Bus β] where
  cpu : Nat → Cpu
  bus : Nat → β
  fresh : cpu 0 = .powerOn ∨ cpu 0 = .afterBoot
  next : ∀ n, ∃ regs cycles,
    cpu (n + 1) = { ((cpu n).step.run (bus n)).1.cpu with regs := regs, cycles := cycles }

namespace Course
variable {β : Type} [Bus β] (course : Course β)

/-- How step `n` ended. -/
def outcome (n : Nat) : Outcome := ((course.cpu n).step.run (course.bus n)).1

/-- The instruction that step `n` carried out. -/
def executed (n : Nat) : Option Instruction := (course.outcome n).instruction?

/-- Step `n` was a dispatch. -/
def Dispatched (n : Nat) : Prop := ∃ source, (course.outcome n).deed = .dispatch source

theorem passage (n : Nat) : Passage (course.cpu n) (course.outcome n) :=
  (passage_step (course.cpu n)).of_run (course.bus n)

/-- What does not depend on registers and cycle count is handed from step to step. -/
theorem succ_eq {α : Type} (view : Cpu → α)
    (blind : ∀ cpu regs cycles, view { cpu with regs := regs, cycles := cycles } = view cpu)
    (n : Nat) : view (course.cpu (n + 1)) = view (course.outcome n).cpu := by
  obtain ⟨regs, cycles, h⟩ := course.next n
  rw [h]
  exact blind _ regs cycles

theorem ime_succ (n : Nat) : (course.cpu (n + 1)).ime = (course.outcome n).cpu.ime :=
  course.succ_eq Cpu.ime (fun _ _ _ => rfl) n

theorem enabling_succ (n : Nat) :
    (course.cpu (n + 1)).enabling = (course.outcome n).cpu.enabling :=
  course.succ_eq Cpu.enabling (fun _ _ _ => rfl) n

theorem state_succ (n : Nat) : (course.cpu (n + 1)).state = (course.outcome n).cpu.state :=
  course.succ_eq Cpu.state (fun _ _ _ => rfl) n

theorem fault_succ (n : Nat) : (course.cpu (n + 1)).fault = (course.outcome n).cpu.fault :=
  course.succ_eq Cpu.fault (fun _ _ _ => rfl) n

/-- What an executed instruction does to IME, and when it can be executed. -/
theorem of_executed {n : Nat} {instruction : Instruction}
    (h : course.executed n = some instruction) :
    (course.cpu n).fault = none ∧
      (course.cpu (n + 1)).ime =
        instruction.imeAfter (course.cpu n).ime (course.cpu n).enabling ∧
      (course.cpu (n + 1)).enabling = instruction.enablingAfter (course.cpu n).enabling := by
  rw [course.ime_succ, course.enabling_succ]
  unfold executed at h
  cases course.passage n with
  | executed other done healthy awake ime enabling =>
    obtain rfl : other = instruction := Option.some.inj (done.symm.trans h)
    exact ⟨healthy, ime, enabling⟩
  | failed _ _ _ deed unnamed => simp [Outcome.instruction?, deed, unnamed] at h
  | refused deed | waited deed | overlooked deed | dispatched _ deed =>
    simp [Outcome.instruction?, deed] at h

/-- A dispatch is served only while IME is on. -/
theorem of_served {n : Nat} {source : Interrupt} (h : (course.outcome n).deed = .dispatch source) :
    (course.cpu n).fault = none ∧ (course.cpu n).ime = true := by
  cases course.passage n with
  | dispatched _ deed healthy served => exact ⟨healthy, served⟩
  | refused deed | waited deed | overlooked deed | failed _ _ _ deed => rw [deed] at h; cases h
  | executed instruction done => simp [Outcome.instruction?, h] at done

/-- A dispatch clears IME and keeps the wish. -/
theorem of_dispatched {n : Nat} (h : course.Dispatched n) :
    (course.cpu (n + 1)).ime = false ∧
      (course.cpu (n + 1)).enabling = (course.cpu n).enabling := by
  obtain ⟨source, h⟩ := h
  rw [course.ime_succ, course.enabling_succ]
  cases course.passage n with
  | dispatched _ deed healthy served awake ime enabling => exact ⟨ime, enabling⟩
  | refused deed | waited deed | overlooked deed | failed _ _ _ deed => rw [deed] at h; cases h
  | executed instruction done => simp [Outcome.instruction?, h] at done

/-- **Where IME rises**: at the end of an instruction. -/
theorem executed_of_rise {n : Nat} (off : (course.cpu n).ime = false)
    (on : (course.cpu (n + 1)).ime = true) :
    ∃ instruction, course.executed n = some instruction ∧
      instruction.imeAfter false (course.cpu n).enabling = true := by
  rw [course.ime_succ] at on
  cases course.passage n with
  | refused deed faulty same => rw [same, off] at on; cases on
  | waited deed healthy asleep ime => rw [ime, off] at on; cases on
  | overlooked deed served => rw [off] at served; cases served
  | dispatched source deed healthy served => rw [off] at served; cases served
  | failed address opcode fetched deed unnamed faulty ime => rw [ime, off] at on; cases on
  | executed instruction done healthy awake ime =>
    rw [ime, off] at on
    exact ⟨instruction, done, on⟩

/-! ## Where a wish comes from -/

/-- **The wish is never old**: while it stands in a processor without fault, the processor is awake,
and the last step was an EI, or one that executed nothing and carried the wish on. -/
structure Recent (n : Nat) : Prop where
  awake : (course.cpu n).state = .running
  source : ∃ m, n = m + 1 ∧
    (course.executed m = some .enableInterrupts ∨
      (course.cpu m).enabling = true ∧ (course.Dispatched m ∨
        (course.outcome m).deed = .overlook ∧ (course.cpu n).ime = true))

theorem recent_succ {n : Nat}
    (ih : (course.cpu n).fault = none → (course.cpu n).enabling = true → course.Recent n)
    (healthy : (course.cpu (n + 1)).fault = none) (wish : (course.cpu (n + 1)).enabling = true) :
    course.Recent (n + 1) := by
  have state := course.state_succ n
  rw [course.fault_succ] at healthy
  rw [course.enabling_succ] at wish
  cases course.passage n with
  | refused deed faulty same => rw [same] at healthy; exact absurd healthy faulty
  | failed address opcode fetched deed unnamed faulty => exact absurd healthy faulty
  | waited deed sound asleep ime enabling =>
    -- A wish never stands while the processor waits.
    exact absurd (ih sound (enabling ▸ wish)).awake asleep
  | overlooked deed served awake ime enabling =>
    have on := (course.ime_succ n).trans ime
    exact ⟨state.trans awake, n, rfl, .inr ⟨enabling ▸ wish, .inr ⟨deed, on⟩⟩⟩
  | dispatched source deed sound served awake ime enabling =>
    exact ⟨state.trans awake, n, rfl, .inr ⟨enabling ▸ wish, .inl ⟨source, deed⟩⟩⟩
  | executed instruction done sound awake ime enabling =>
    rw [enabling] at wish
    obtain rfl := eq_enableInterrupts_of_enablingAfter wish
    exact ⟨state.trans (awake rfl), n, rfl, .inl done⟩

theorem recent (n : Nat) (healthy : (course.cpu n).fault = none)
    (wish : (course.cpu n).enabling = true) : course.Recent n := by
  induction n with
  | zero =>
    rcases course.fresh with h | h <;> rw [h] at wish <;> cases wish
  | succ n ih => exact course.recent_succ ih healthy wish

/-! ## The rules -/

/-- **The documented rules of IME.** -/
structure Disciplined : Prop where
  /-- IME rises by RETI, or by the instruction right after an EI, which is no DI. -/
  rise : ∀ n, (course.cpu n).ime = false → (course.cpu (n + 1)).ime = true →
    course.executed n = some .retInterrupt ∨
      ∃ m instruction, n = m + 1 ∧ course.executed m = some .enableInterrupts ∧
        course.executed n = some instruction ∧ instruction ≠ .disableInterrupts
  /-- EI works: after the next instruction, unless that is DI, IME is on. -/
  effect : ∀ n instruction, (course.cpu n).ime = false →
    course.executed n = some .enableInterrupts → course.executed (n + 1) = some instruction →
      instruction ≠ .disableInterrupts → (course.cpu (n + 2)).ime = true
  /-- After a dispatch IME stays off until the handler carries out a RETI, or an EI and one more
  step. -/
  handler : ∀ n k, course.Dispatched n →
    (∀ i, n < i → i ≤ n + k → course.executed i ≠ some .retInterrupt) →
    (∀ i, n < i → i < n + k → course.executed i ≠ some .enableInterrupts) →
      (course.cpu (n + k + 1)).ime = false

/-- A dispatch is stale if it was served between an EI and the end of the instruction after it, so
that the wish of that EI stands in the handler. -/
def Stale (n : Nat) : Prop := course.Dispatched n ∧ (course.cpu n).enabling = true

/-- EI works in every run. -/
theorem ime_of_enable {n : Nat} {instruction : Instruction}
    (enable : course.executed n = some .enableInterrupts)
    (next : course.executed (n + 1) = some instruction)
    (noDi : instruction ≠ .disableInterrupts) : (course.cpu (n + 2)).ime = true := by
  obtain ⟨-, ime, enabling⟩ := course.of_executed enable
  obtain ⟨-, raised, -⟩ := course.of_executed next
  rw [raised]
  -- An EI that finds an older wish leaves none, but then IME is on at its own end.
  cases wish : (course.cpu n).enabling with
  | false =>
    have stands : (course.cpu (n + 1)).enabling = true := by
      rw [enabling, wish]
      rfl
    rw [stands]
    exact imeAfter_of_enabling noDi
  | true =>
    have on : (course.cpu (n + 1)).ime = true := by
      rw [ime, wish]
      exact imeAfter_of_enabling nofun
    rw [on]
    exact imeAfter_of_ime noDi

/-- IME rises only as documented, or at the end of the first instruction after a stale dispatch. -/
theorem source_of_rise {n : Nat} (off : (course.cpu n).ime = false)
    (on : (course.cpu (n + 1)).ime = true) :
    ∃ instruction, course.executed n = some instruction ∧
      (instruction = .retInterrupt ∨ instruction ≠ .disableInterrupts ∧
        ∃ m, n = m + 1 ∧ (course.executed m = some .enableInterrupts ∨ course.Stale m)) := by
  obtain ⟨instruction, done, rises⟩ := course.executed_of_rise off on
  refine ⟨instruction, done, ?_⟩
  cases wish : (course.cpu n).enabling with
  | false =>
    rw [wish] at rises
    exact .inl (eq_retInterrupt_of_imeAfter rises)
  | true =>
    obtain ⟨healthy, -, -⟩ := course.of_executed done
    obtain ⟨-, m, rfl, enable | ⟨stood, served | ⟨-, already⟩⟩⟩ := course.recent n healthy wish
    · exact .inr ⟨ne_disableInterrupts_of_imeAfter rises, m, rfl, .inl enable⟩
    · exact .inr ⟨ne_disableInterrupts_of_imeAfter rises, m, rfl, .inr ⟨served, stood⟩⟩
    · rw [off] at already
      cases already

/-- Nothing is executed in a dispatch. -/
theorem executed_of_dispatched {n : Nat} (h : course.Dispatched n) : course.executed n = none := by
  obtain ⟨source, deed⟩ := h
  simp [executed, Outcome.instruction?, deed]

/-- The first instruction after a stale dispatch turns IME on, unless it is a DI. -/
theorem ime_of_stale {n : Nat} {instruction : Instruction} (stale : course.Stale n)
    (next : course.executed (n + 1) = some instruction)
    (noDi : instruction ≠ .disableInterrupts) : (course.cpu (n + 2)).ime = true := by
  obtain ⟨-, raised, -⟩ := course.of_executed next
  rw [raised, (course.of_dispatched stale.1).2, stale.2]
  exact imeAfter_of_enabling noDi

/-- The handlers of stale dispatches all begin with DI or RETI. -/
def Guarded : Prop :=
  ∀ n instruction, course.Stale n → course.executed (n + 1) = some instruction →
    instruction = .disableInterrupts ∨ instruction = .retInterrupt

variable {course}

theorem Guarded.rise (h : course.Guarded) {n : Nat} (off : (course.cpu n).ime = false)
    (on : (course.cpu (n + 1)).ime = true) :
    course.executed n = some .retInterrupt ∨
      ∃ m instruction, n = m + 1 ∧ course.executed m = some .enableInterrupts ∧
        course.executed n = some instruction ∧ instruction ≠ .disableInterrupts := by
  obtain ⟨instruction, done, rfl | ⟨noDi, m, rfl, enable | stale⟩⟩ := course.source_of_rise off on
  · exact .inl done
  · exact .inr ⟨m, instruction, rfl, enable, done, noDi⟩
  · rcases h m instruction stale done with rfl | rfl
    · exact absurd rfl noDi
    · exact .inl done

theorem Guarded.handler (h : course.Guarded) {n : Nat} (dispatched : course.Dispatched n) (k : Nat)
    (noReti : ∀ i, n < i → i ≤ n + k → course.executed i ≠ some .retInterrupt)
    (noEi : ∀ i, n < i → i < n + k → course.executed i ≠ some .enableInterrupts) :
    (course.cpu (n + k + 1)).ime = false := by
  induction k with
  | zero => exact (course.of_dispatched dispatched).1
  | succ k ih =>
    have off : (course.cpu (n + k + 1)).ime = false :=
      ih (fun i low high => noReti i low (by omega)) fun i low high => noEi i low (by omega)
    rw [← Bool.not_eq_true]
    intro on
    rcases h.rise off on with reti | ⟨m, instruction, moment, enable, -, -⟩
    · exact noReti (n + k + 1) (by omega) (by omega) reti
    · obtain rfl : n + k = m := by omega
      -- The step before the rise is a step of the handler, or else the dispatch itself.
      by_cases first : k = 0
      · subst first
        rw [Nat.add_zero, course.executed_of_dispatched dispatched] at enable
        cases enable
      · exact noEi (n + k) (by omega) (by omega) enable

variable (course)

/-- **When the rules of IME hold**: exactly in the runs in which every stale dispatch leads to a
handler that begins with DI or RETI, on every bus. -/
theorem disciplined_iff_guarded : course.Disciplined ↔ course.Guarded := by
  constructor
  · intro rules n instruction stale next
    refine Classical.byContradiction fun neither => ?_
    rw [not_or] at neither
    have off := rules.handler n 1 stale.1
      (fun i low high => by
        obtain rfl : i = n + 1 := by omega
        rw [next]
        exact fun h => neither.2 (Option.some.inj h))
      fun i low high => by omega
    rw [course.ime_of_stale stale next neither.1] at off
    cases off
  · intro guarded
    exact {
      rise := fun n => guarded.rise
      effect := fun n instruction _ => course.ime_of_enable
      handler := fun n k dispatched => guarded.handler dispatched k }

/-- On a lawful bus a dispatch is stale exactly if it comes right after an EI that left a wish. -/
theorem stale_iff [Bus.Lawful β] (n : Nat) :
    course.Stale n ↔ course.Dispatched n ∧ ∃ m, n = m + 1 ∧
      course.executed m = some .enableInterrupts ∧ (course.cpu m).enabling = false := by
  constructor
  · rintro ⟨⟨source, deed⟩, wish⟩
    obtain ⟨healthy, on⟩ := course.of_served deed
    refine ⟨⟨source, deed⟩, ?_⟩
    -- Two dispatches in a row are impossible, since the first takes IME away.
    obtain ⟨-, m, rfl, enable | ⟨-, served | ⟨empty, -⟩⟩⟩ := course.recent n healthy wish
    · refine ⟨m, rfl, enable, ?_⟩
      rw [(course.of_executed enable).2.2] at wish
      simpa [enablingAfter] using wish
    · rw [(course.of_dispatched served).1] at on
      cases on
    · exact absurd empty (deed_step _ _)
  · rintro ⟨served, m, rfl, enable, noWish⟩
    refine ⟨served, ?_⟩
    rw [(course.of_executed enable).2.2, noWish]
    rfl

/-! ## A run without discipline -/

/-- A new processor and the bus it was given, after so many steps. -/
def alone (bus : β) : Nat → Cpu × β
  | 0 => (.powerOn, bus)
  | n + 1 =>
    let (outcome, after) := (alone bus n).1.step.run (alone bus n).2
    (outcome.cpu, after)

/-- The run in which nobody but the processor touches anything. -/
def closed (bus : β) : Course β where
  cpu n := (alone bus n).1
  bus n := (alone bus n).2
  fresh := .inl rfl
  next n := ⟨(alone bus (n + 1)).1.regs, (alone bus (n + 1)).1.cycles, rfl⟩

/-- A bus on which three EI come before anything else, then an interrupt that is requested at once,
then NOP for ever. -/
structure Siren where
  ticks : Nat := 0

instance : Bus Siren where
  read siren _ := (if siren.ticks < 3 then 0xFB else 0x00, siren)
  write siren _ _ := siren
  tick siren := ⟨siren.ticks + 1⟩
  pending siren := if siren.ticks < 3 then 0x00 else 0x01
  acknowledge siren _ := siren

/-- **The rules do not hold of every run**: the third EI is executed with IME on, the dispatch after
it leaves its wish standing, and the NOP at the handler turns IME on. -/
theorem undisciplined : ¬ (closed ({} : Siren)).Disciplined := by
  intro rules
  have dispatched : (closed ({} : Siren)).Dispatched 3 := ⟨.vblank, by decide⟩
  have off := rules.handler 3 1 dispatched
    (fun i low high => by
      obtain rfl : i = 4 := by omega
      decide)
    fun i low high => by omega
  exact absurd off (by decide)

end Course
end Cpu
end DotMatrix
