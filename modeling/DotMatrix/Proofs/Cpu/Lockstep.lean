import DotMatrix.Proofs.Cpu.Timing

/-! # Processor and bus in lockstep

The rest of the machine moves when the processor says that an M-cycle has passed, so its timing is
right only if the processor says so after every access and never besides its own count.  This module
looks at the whole conversation of a step, questions included (`transcript`), and proves that all
microcode is `Paced`: an access to memory is followed at once by its tick.  A step is one poll and
then a paced dialogue, and its books balance.
-/
namespace DotMatrix

/-! ## The whole conversation -/

/-- Anything the processor says to its bus: a call, or a question that leaves the bus alone. -/
inductive Exchange where
  | call (made : Call)
  | pending (mask : UInt8)
  | buttonHeld (held : Bool)
  deriving DecidableEq

namespace Exchange

/-- The call, if it is one. -/
def call? : Exchange → Option Call
  | call made => some made
  | _ => none

/-- Whether this is an access to memory. -/
def isAccess : Exchange → Bool
  | call (.read _ _) | call (.write _ _) => true
  | _ => false

end Exchange

namespace Dialogue
variable {α γ β : Type}

/-- All that is said when the dialogue is held with a bus, in order. -/
def transcript [Bus β] : Dialogue α → β → List Exchange
  | done _, _ => []
  | poll rest, bus => .call .poll :: rest.transcript (Bus.poll bus)
  | read address rest, bus =>
    match Bus.read bus address with
    | (value, bus) => .call (.read address value) :: (rest value).transcript bus
  | write address value rest, bus =>
    .call (.write address value) :: rest.transcript (Bus.write bus address value)
  | tick rest, bus => .call .tick :: rest.transcript (Bus.tick bus)
  | pending rest, bus => .pending (Bus.pending bus) :: (rest (Bus.pending bus)).transcript bus
  | acknowledge source rest, bus =>
    .call (.acknowledge source) :: rest.transcript (Bus.acknowledge bus source)
  | buttonHeld rest, bus =>
    .buttonHeld (Bus.buttonHeld bus) :: (rest (Bus.buttonHeld bus)).transcript bus
  | resetDivider rest, bus => .call .resetDivider :: rest.transcript (Bus.resetDivider bus)

/-- Without the questions the conversation is what `record` writes down. -/
theorem filterMap_transcript [Bus β] (dialogue : Dialogue α) (bus : β) :
    (dialogue.transcript bus).filterMap Exchange.call? = (dialogue.record bus).1 := by
  induction dialogue generalizing bus with
  | done => rfl
  | pending _ ih | buttonHeld _ ih => exact ih _ bus
  | poll _ ih | write _ _ _ ih | tick _ ih | acknowledge _ _ ih | resetDivider _ ih =>
    exact congrArg (_ :: ·) (ih _)
  | read _ _ ih => exact congrArg (_ :: ·) (ih _ _)

/-- A call occurs as often in the conversation as it is written down. -/
theorem count_transcript [Bus β] (dialogue : Dialogue α) (bus : β) (made : Call) :
    (dialogue.transcript bus).count (.call made) = (dialogue.record bus).1.count made := by
  rw [← filterMap_transcript]
  induction dialogue.transcript bus with
  | nil => rfl
  | cons said rest ih => cases said <;> simp_all [List.count_cons, List.filterMap_cons, Exchange.call?]

/-! ## Paced dialogues -/

/-- A dialogue without a poll in which every access to memory is followed at once by a tick. -/
inductive Paced : Dialogue α → Prop where
  | done (result : α) : Paced (.done result)
  | idle {rest : Dialogue α} : Paced rest → Paced (.tick rest)
  | load (address : UInt16) {rest : UInt8 → Dialogue α} :
    (∀ value, Paced (rest value)) → Paced (.read address fun value => .tick (rest value))
  | store (address : UInt16) (value : UInt8) {rest : Dialogue α} :
    Paced rest → Paced (.write address value (.tick rest))
  | pending {rest : UInt8 → Dialogue α} : (∀ mask, Paced (rest mask)) → Paced (.pending rest)
  | acknowledge (source : Interrupt) {rest : Dialogue α} :
    Paced rest → Paced (.acknowledge source rest)
  | buttonHeld {rest : Bool → Dialogue α} : (∀ held, Paced (rest held)) → Paced (.buttonHeld rest)
  | resetDivider {rest : Dialogue α} : Paced rest → Paced (.resetDivider rest)

theorem Paced.bind {dialogue : Dialogue α} {next : α → Dialogue γ} (h : dialogue.Paced)
    (k : ∀ result, (next result).Paced) : (dialogue.bind next).Paced := by
  induction h with
  | done result => exact k result
  | idle _ ih => exact .idle ih
  | load address _ ih => exact .load address ih
  | store address value _ ih => exact .store address value ih
  | pending _ ih => exact .pending ih
  | acknowledge source _ ih => exact .acknowledge source ih
  | buttonHeld _ ih => exact .buttonHeld ih
  | resetDivider _ ih => exact .resetDivider ih

end Dialogue

namespace Exchange

/-- Every access in the conversation is followed at once by a tick. -/
def Paced (said : List Exchange) : Prop :=
  ∀ before access after, said = before ++ access :: after → access.isAccess = true →
    ∃ later, after = .call .tick :: later

theorem Paced.nil : Paced [] := by
  intro before access after split
  simp at split

theorem Paced.cons {first : Exchange} {said : List Exchange} (other : first.isAccess = false)
    (h : Paced said) : Paced (first :: said) := by
  intro before access after split isAccess
  cases before with
  | nil =>
    obtain ⟨rfl, rfl⟩ := List.cons.inj split
    rw [other] at isAccess
    cases isAccess
  | cons _ before => exact h before access after (List.cons.inj split).2 isAccess

theorem Paced.access {access : Exchange} {said : List Exchange} (h : Paced (.call .tick :: said)) :
    Paced (access :: .call .tick :: said) := by
  intro before other after split isAccess
  cases before with
  | nil => exact ⟨said, (List.cons.inj split).2.symm⟩
  | cons _ before => exact h before other after (List.cons.inj split).2 isAccess

theorem Paced.tail {first : Exchange} {said : List Exchange} (h : Paced (first :: said)) :
    Paced said := by
  intro before access after split
  exact h (first :: before) access after (by rw [split, List.cons_append])

theorem Paced.drop {before said : List Exchange} (h : Paced (before ++ said)) : Paced said := by
  induction before with
  | nil => exact h
  | cons _ _ ih => exact ih h.tail

/-- **Up to the next tick there is one access at most.** -/
theorem Paced.countP_le_one {between after : List Exchange}
    (h : Paced (between ++ .call .tick :: after)) (quiet : .call .tick ∉ between) :
    between.countP isAccess ≤ 1 := by
  induction between with
  | nil => exact Nat.zero_le 1
  | cons first between ih =>
    rw [List.mem_cons, not_or] at quiet
    cases access : first.isAccess with
    | false =>
      rw [List.countP_cons_of_neg (by simp [access])]
      exact ih h.tail quiet.2
    | true =>
      obtain ⟨later, next⟩ := h [] first _ rfl access
      -- What follows the access is its tick, so nothing is left before it.
      cases between with
      | nil => simp [access]
      | cons second between =>
        obtain ⟨rfl, -⟩ := List.cons.inj next
        exact absurd (List.mem_cons_self ..) quiet.2

end Exchange

namespace Dialogue
variable {α β : Type} [Bus β]

theorem Paced.transcript {dialogue : Dialogue α} (h : dialogue.Paced) (bus : β) :
    Exchange.Paced (dialogue.transcript bus) := by
  induction h generalizing bus with
  | done => exact .nil
  | load _ _ ih => exact .access (.cons rfl (ih _ _))
  | store _ _ _ ih => exact .access (.cons rfl (ih _))
  | pending _ ih | buttonHeld _ ih => exact .cons rfl (ih _ bus)
  | idle _ ih | acknowledge _ _ ih | resetDivider _ ih => exact .cons rfl (ih _)

/-- A paced dialogue samples no buttons. -/
theorem Paced.poll_not_mem {dialogue : Dialogue α} (h : dialogue.Paced) (bus : β) :
    .call .poll ∉ dialogue.transcript bus := by
  induction h generalizing bus with
  | done => exact List.not_mem_nil
  | load _ _ ih => simpa [Dialogue.transcript] using ih _ _
  | pending _ ih | buttonHeld _ ih => simpa [Dialogue.transcript] using ih _ bus
  | store _ _ _ ih | idle _ ih | acknowledge _ _ ih | resetDivider _ ih =>
    simpa [Dialogue.transcript] using ih _

end Dialogue

/-! ## All microcode is paced -/

namespace Microcode
variable {α γ : Type}

/-- `code` follows every access with a tick, whatever the processor. -/
class Paces (code : Microcode α) : Prop where
  paced : ∀ cpu, (code cpu).Paced

instance (code : Microcode α) (next : α → Microcode γ) [first : Paces code]
    [second : ∀ value, Paces (next value)] : Paces (code >>= next) where
  paced cpu := (first.paced cpu).bind fun out => (second out.1).paced out.2

instance (value : α) : Paces (pure value : Microcode α) := ⟨fun cpu => .done (value, cpu)⟩

instance (condition : Prop) [Decidable condition] (yes no : Microcode α) [Paces yes] [Paces no] :
    Paces (if condition then yes else no) := by
  split <;> infer_instance

instance : Paces idle := ⟨fun _ => .idle (.done _)⟩

instance (address : UInt16) : Paces (load address) := ⟨fun _ => .load address fun _ => .done _⟩

instance (address : UInt16) (value : UInt8) : Paces (store address value) :=
  ⟨fun _ => .store address value (.done _)⟩

instance : Paces resetDivider := ⟨fun _ => .resetDivider (.done _)⟩

instance (source : Interrupt) : Paces (acknowledge source) :=
  ⟨fun _ => .acknowledge source (.done _)⟩

instance (view : Registers → α) : Paces (look view) := ⟨fun _ => .done _⟩

instance (update : Registers → Registers) : Paces (change update) := ⟨fun _ => .done _⟩

instance (state : RunState) : Paces (setState state) := ⟨fun _ => .done _⟩

instance (on : Bool) : Paces (setIme on) := ⟨fun _ => .done _⟩

instance (on : Bool) : Paces (setEnabling on) := ⟨fun _ => .done _⟩

instance : Paces advance := ⟨fun _ => .done _⟩

instance : Paces halt := ⟨fun _ => .pending fun _ => .done _⟩

instance : Paces fetch := by unfold fetch; infer_instance

instance : Paces fetchWord := by unfold fetchWord; infer_instance

instance (word : UInt16) : Paces (pushWord word) := by unfold pushWord; infer_instance

instance : Paces popWord := by unfold popWord; infer_instance

instance (flags : Flags) : Paces (setFlags flags) := by unfold setFlags; infer_instance

instance (result : UInt8 × Flags) : Paces (setResult result) := by unfold setResult; infer_instance

instance (address : UInt16) : Paces (goTo address) := by unfold goTo; infer_instance

instance (operation : ByteOperation) (value : UInt8) : Paces (combineA operation value) := by
  unfold combineA; infer_instance

instance (offset : UInt8) : Paces (jumpBy offset) := by unfold jumpBy; infer_instance

instance (target : UInt16) : Paces (jumpTo target) := by unfold jumpTo; infer_instance

instance (target : UInt16) : Paces (callTo target) := by unfold callTo; infer_instance

instance : Paces returnToCaller := by unfold returnToCaller; infer_instance

instance (place : Place) : Paces place.get := by
  cases place <;> simp only [Place.get] <;> infer_instance

instance (place : Place) (value : UInt8) : Paces (place.set value) := by
  cases place <;> simp only [Place.set] <;> infer_instance

instance (pointer : Pointer) : Paces pointer.take := by
  cases pointer <;> simp only [Pointer.take] <;> infer_instance

instance (instruction : BitInstruction) : Paces instruction.perform := by
  cases instruction <;> simp only [BitInstruction.perform] <;> infer_instance

instance (instruction : Instruction) : Paces instruction.perform := by
  cases instruction <;> simp only [Instruction.perform] <;> infer_instance

instance (opcode : UInt8) : Paces (execute opcode) := by
  unfold execute; split <;> infer_instance

-- A dispatch is longer than any instruction, and so is the search for its pieces.
set_option synthInstance.maxSize 256 in
instance (source : Interrupt) : Paces (dispatch source) := by unfold dispatch; infer_instance

end Microcode

/-! ## Steps -/

namespace Cpu
open Microcode

theorem paced_instruct (cpu : Cpu) : cpu.instruct.Paced := by
  have fetched : (fetch cpu).Paced := Paces.paced cpu
  refine fetched.bind fun out => ?_
  have executed : (Microcode.execute out.1 out.2).Paced := Paces.paced out.2
  refine executed.bind fun after => ?_
  rcases after with ⟨_ | _, after⟩
  · exact .done _
  · dsimp only
    split <;> exact .done _

theorem paced_proceed (cpu : Cpu) : cpu.proceed.Paced := by
  refine .pending fun mask => ?_
  split
  · split
    · rename_i source _
      have served : (dispatch source cpu).Paced := Paces.paced cpu
      exact served.bind fun _ => .done _
    · exact .done _
  · exact paced_instruct cpu

/-- **A step is a poll, and then a paced dialogue.** -/
theorem exists_paced_step {cpu : Cpu} (healthy : cpu.fault = none) :
    ∃ rest : Dialogue Outcome, cpu.step = .poll rest ∧ rest.Paced := by
  unfold step
  rw [healthy]
  refine ⟨_, rfl, ?_⟩
  split
  · exact paced_proceed cpu
  · exact .idle (.pending fun _ => .done _)
  · refine .buttonHeld fun held => ?_
    split
    · exact paced_proceed _
    · exact .idle (.done _)

/-- **Lockstep**: the rules for what a step says to its bus, and for what it costs, when it began with
so many cycles behind it. -/
structure Lockstep (start : Nat) (said : List Exchange) (outcome : Outcome) : Prop where
  /-- Buttons are sampled once, before anything else. -/
  polled : ∃ rest, said = .call .poll :: rest ∧ .call .poll ∉ rest
  /-- Every access is followed at once by its tick. -/
  followed : ∀ before access after, said = before ++ access :: after → access.isAccess = true →
    ∃ later, after = .call .tick :: later
  /-- Between two ticks in a row there is one access at most. -/
  spread : ∀ before between after,
    said = before ++ .call .tick :: (between ++ .call .tick :: after) →
      .call .tick ∉ between → between.countP Exchange.isAccess ≤ 1
  /-- The processor counts four T-cycles for each tick, whether the step failed or not. -/
  counted : outcome.cpu.cycles = start + 4 * said.count (.call .tick)
  /-- A step that did not fail reports the same, which is one M-cycle at least and six at most. -/
  reported : ∀ spent, outcome.result = .ok spent →
    spent = 4 * said.count (.call .tick) ∧ 4 ≤ spent ∧ spent ≤ 24

/-- **Every step keeps in lockstep with its bus**, on every bus that keeps to the five sources and for
every processor that no fault has stopped. -/
theorem lockstep_of_step {β : Type} [Bus β] [Bus.Lawful β] {cpu : Cpu} (healthy : cpu.fault = none)
    (bus : β) : Lockstep cpu.cycles (cpu.step.transcript bus) (cpu.step.run bus).1 := by
  obtain ⟨rest, begins, paced⟩ := exists_paced_step healthy
  have said : cpu.step.transcript bus = .call .poll :: rest.transcript (Bus.poll bus) := by
    rw [begins]
    rfl
  have followed : Exchange.Paced (cpu.step.transcript bus) := by
    rw [said]
    exact .cons rfl (paced.transcript _)
  have ticks := cpu.step.count_transcript bus .tick
  have books := (tallies_step cpu).of_record bus
  have few := (ticks_step_le cpu).of_record bus
  rw [Dialogue.record_snd] at books
  exact {
    polled := ⟨_, said, paced.poll_not_mem _⟩
    followed := followed
    spread := by
      intro before between after split quiet
      rw [split] at followed
      exact followed.drop.tail.countP_le_one quiet
    counted := by
      rw [ticks]
      exact books.counted
    reported := by
      intro spent went
      have paid := books.reported spent went
      rw [ticks]
      exact ⟨paid, four_le_of_step went, by omega⟩ }

instance : Bus.Lawful Monotone := ⟨fun _ => UInt8.zero_and⟩

/-- The call that takes longest, with all that is said meanwhile. -/
theorem lockstep_of_call :
    let cpu : Cpu := { regs := {}, haltBug := true }
    let bus := Monotone.mk 0xC4
    cpu.fault = none ∧
      cpu.step.transcript bus = [.call .poll, .pending 0,
        .call (.read 0x0000 0xC4), .call .tick, .call (.read 0x0000 0xC4), .call .tick,
        .call (.read 0x0001 0xC4), .call .tick, .call .tick, .call (.write 0xFFFF 0x00), .call .tick,
        .call (.write 0xFFFE 0x02), .call .tick] ∧
      Lockstep 0 (cpu.step.transcript bus) (cpu.step.run bus).1 :=
  ⟨rfl, by decide, @lockstep_of_step _ _ _ { regs := {}, haltBug := true } rfl (Monotone.mk 0xC4)⟩

end Cpu
end DotMatrix
