import DotMatrix.Proofs.Machine.Uses
import DotMatrix.Proofs.Narrow.Header
import DotMatrix.Proofs.Narrow.MemoryMap

/-! # Machines in registers

A machine, used in registers from the moment it is new: images are put into its slot, programs run, and in
between everything is read, stored and changed from outside.  No sequence of uses is without a result, and
the numbers of the devices stay in their ranges meanwhile (`fits_in_registers`).

The totals of T-cycles are not bounded.  They grow with every step, and whoever runs a machine for long
enough takes them beyond any register.
-/
namespace DotMatrix
namespace Narrow

/-! ## Steps -/

/-- Make a frame the newest. -/
def publish (sink : Handoff) (frame : ByteArray) : Option Handoff := do
  let slot := sink.slots.get sink.back
  let count ← upTo slot.size (min frame.size slot.size)
  let _ ← upTo frame.size count
  return sink.publish frame

/-- Collect a frame that was finished, and hand it over. -/
def collectFrame (machine : Machine) : Option Machine :=
  if machine.memory.lcd.frameReady then do
    let sink ← machine.sink.mapM (publish · machine.memory.lcd.screen.rgba)
    return { machine with
      memory := { machine.memory with lcd := machine.memory.lcd.takeFrameReady.2 }
      sink := sink
      frameDone := true }
  else some machine

/-- One step, and the T-cycles it took or the fault that ended it.  What it took is the difference of two
totals, and fits where a total may not. -/
def stepMachine (machine : Machine) : Option (Except Fault Nat × Machine) := do
  let (outcome, memory) ← hold (step machine.cpu) machine.memory
  let outcome ← outcome
  let after : Machine :=
    { machine with
      cpu := outcome.cpu
      memory := memory
      journal := (outcome.log machine.journal).writeAll (memory.bootNotices machine.memory.bootMapped) }
  match outcome.result with
  | .ok _ =>
    let spent ← minus outcome.cpu.cycles machine.cpu.cycles
    let spent ← fit .double spent
    let collected ← collectFrame after
    return (.ok spent, collected)
  | .error fault => return (.error fault, after)

theorem publish_eq (sink : Handoff) (frame : ByteArray) : publish sink frame = some (sink.publish frame) :=
  bind_of_eq (upTo_of_le (Nat.min_le_right ..)) (bind_of_eq (upTo_of_le (Nat.min_le_left ..)) rfl)

theorem collectFrame_eq (machine : Machine) : collectFrame machine = some machine.collectFrame := by
  unfold collectFrame Machine.collectFrame
  split
  · have handed : machine.sink.mapM (publish · machine.memory.lcd.screen.rgba) =
        some (machine.sink.map (·.publish machine.memory.lcd.screen.rgba)) := by
      cases machine.sink with
      | none => rfl
      | some sink =>
        rw [Option.mapM_some, publish_eq]
        rfl
    exact bind_of_eq handed rfl
  · rfl

/-- **A step has a result**, whatever the program does in it. -/
theorem stepMachine_eq {machine : Machine} (h : machine.memory.Fit) :
    stepMachine machine = some machine.step := by
  have held : hold (step machine.cpu) machine.memory =
      some (some (machine.cpu.step.run machine.memory).1, (machine.cpu.step.run machine.memory).2) := by
    rw [step_eq, hold_eq _ h]
    exact congrArg some (Dialogue.run_bind ..)
  refine bind_of_eq held (bind_of_eq rfl ?_)
  have parts := machine.step_eq
  cases result : (machine.cpu.step.run machine.memory).1.result with
  | error fault =>
    rw [parts, result]
    rfl
  | ok spent =>
    -- However large the totals are, their difference is what the step took.
    have took : machine.step = (.ok spent, machine.step.2) := by rw [parts, result]
    have few := Machine.cost_le took
    have counted := Cpu.cycles_of_step result
    have difference : minus (machine.cpu.step.run machine.memory).1.cpu.cycles machine.cpu.cycles =
        some spent := by
      rw [counted, minus_of_le (Nat.le_add_right ..), Nat.add_sub_cancel_left]
    rw [parts, result]
    refine bind_of_eq difference (bind_of_eq (fit_double (by omega)) ?_)
    exact bind_of_eq (collectFrame_eq _) rfl

/-! ## Runs -/

/-- Steps until `limit` T-cycles have passed, `spent` of them before, or until `stop` holds between two
steps.  A step that took no time would not bring the run nearer to its end. -/
def runUnless (stop : Machine → Bool) (limit spent : Nat) (machine : Machine) :
    Option (Except Fault Nat × Machine) :=
  if spent < limit && !stop machine then
    match stepMachine machine with
    | none => none
    | some (.error fault, next) => some (.error fault, next)
    | some (.ok cycles, next) =>
      if 0 < cycles then runUnless stop limit (spent + cycles) next else none
  else some (.ok spent, machine)
termination_by limit - spent
decreasing_by
  simp_all only [Bool.and_eq_true, decide_eq_true_eq]
  omega

/-- Look at the machine between any two steps, and before the first, until what is seen is what is looked
for or the time is over. -/
def runUntil {σ : Type} (look : Machine → σ → Bool × σ) (limit spent : Nat) (memory : σ)
    (machine : Machine) : Option (Except Fault Bool × σ × Machine) :=
  match look machine memory with
  | (true, memory) => some (.ok true, memory, machine)
  | (false, memory) =>
    if spent < limit then
      match stepMachine machine with
      | none => none
      | some (.error fault, next) => some (.error fault, memory, next)
      | some (.ok cycles, next) =>
        if 0 < cycles then runUntil look limit (spent + cycles) memory next else none
    else some (.ok false, memory, machine)
termination_by limit - spent

theorem runUnless_eq {stop : Machine → Bool} {limit spent : Nat} {machine : Machine}
    (h : machine.memory.Fit) :
    runUnless stop limit spent machine = some (machine.runUnless stop limit spent) := by
  fun_induction Machine.runUnless stop limit spent machine with
  | case1 spent machine begun cycles next took ih =>
    have kept := Machine.fit_step h
    have cost := (Machine.cost_of_step took).1
    rw [took] at kept
    rw [runUnless, if_pos begun, stepMachine_eq h, took]
    dsimp only
    rw [if_pos (by omega)]
    exact ih kept
  | case2 spent machine begun fault next took =>
    rw [runUnless, if_pos begun, stepMachine_eq h, took]
  | case3 spent machine ends => rw [runUnless, if_neg ends]

theorem runUntil_eq {σ : Type} {look : Machine → σ → Bool × σ} {limit spent : Nat} {memory : σ}
    {machine : Machine} (h : machine.memory.Fit) :
    runUntil look limit spent memory machine = some (machine.runUntil look limit spent memory) := by
  fun_induction Machine.runUntil look limit spent memory machine with
  | case1 spent memory machine later seen => rw [runUntil, seen]
  | case2 spent memory machine later unseen time cycles next took ih =>
    have kept := Machine.fit_step h
    have cost := (Machine.cost_of_step took).1
    rw [took] at kept
    rw [runUntil, unseen]
    dsimp only
    rw [if_pos time, stepMachine_eq h, took]
    dsimp only
    rw [if_pos (by omega)]
    exact ih kept
  | case3 spent memory machine later unseen time fault next took =>
    rw [runUntil, unseen]
    dsimp only
    rw [if_pos time, stepMachine_eq h, took]
  | case4 spent memory machine later unseen late =>
    rw [runUntil, unseen]
    exact if_neg late

/-- Let the machine run for a number of T-cycles; a fault is written down. -/
def advance (cycles : Nat) (run : PacedRun) : Option (Except Fault Nat × PacedRun) := do
  match ← runUnless (fun _ => false) cycles 0 run.machine with
  | (.ok spent, machine) =>
    return (.ok spent, { run with machine := machine, executed := run.executed + spent })
  | (.error fault, machine) =>
    return (.error fault,
      { run with machine := { machine with
          journal := machine.journal.write .error fun _ => "emulation halted: " ++ fault.message } })

/-- One turn of a paced run. -/
def takeTurn (pacing : Pacing) (elapsed : Nat) (run : PacedRun) :
    Option (Except Fault PacedRun.Turn × PacedRun) :=
  let target := (pacing.budget? elapsed).getD (run.executed + Machine.cyclesPerFrame)
  if run.executed < target then do
    let left ← minus target run.executed
    match ← advance (min left Machine.cyclesPerFrame) run with
    | (.error fault, run) => return (.error fault, run)
    | (.ok _, run) =>
      let (snapshot, run) := run.present pacing elapsed
      return (.ok ⟨false, snapshot⟩, run)
  else
    let (snapshot, run) := run.present pacing elapsed
    some (.ok ⟨true, snapshot⟩, run)

theorem advance_eq {run : PacedRun} (h : run.machine.memory.Fit) (cycles : Nat) :
    advance cycles run = some (run.advance cycles) := by
  obtain ⟨machine, executed, shown⟩ := run
  refine bind_of_eq (runUnless_eq h) ?_
  unfold PacedRun.advance Machine.runForCycles
  dsimp only
  cases machine.runUnless (fun _ => false) cycles 0 with
  | mk result after => cases result <;> rfl

theorem takeTurn_eq {run : PacedRun} (h : run.machine.memory.Fit) (pacing : Pacing) (elapsed : Nat) :
    takeTurn pacing elapsed run = some (run.turn pacing elapsed) := by
  unfold takeTurn PacedRun.turn
  dsimp only
  split
  · rename_i early
    refine bind_of_eq (minus_of_le (Nat.le_of_lt early)) (bind_of_eq (advance_eq h _) ?_)
    cases run.advance _ with
    | mk result after => cases result <;> rfl
  · rfl

/-! ## Uses -/

/-- A machine after an event. -/
def apply (machine : Machine) : Machine.Event → Option Machine
  | .step => do
    let (_, after) ← stepMachine machine
    return after
  | .runForCycles cycles => do
    let (_, after) ← runUnless (fun _ => false) cycles 0 machine
    return after
  | .runUntilFrame => do
    let (_, after) ← runUnless Machine.frameDone Machine.cyclesPerFrame 0 { machine with frameDone := false }
    return after
  | .runUntil look limit memory => do
    let (_, _, after) ← runUntil look limit 0 memory machine
    return after
  | .press buttons => some (Machine.Event.apply machine (.press buttons))

/-- A machine after it was used. -/
def use (machine : Machine) : Machine.Use → Option Machine
  | .call made => do
    let memory ← call machine.memory made
    return machine.onMemory fun _ => memory
  | .cartridge operation => do
    let memory ← changeCart machine.memory (operate · operation)
    return machine.onMemory fun _ => memory
  | .load image now => do
    match ← ofImage image now with
    | .ok cart => return machine.insert cart
    | .error _ => return machine
  | .event event => apply machine event
  | .turn pacing elapsed executed => do
    let (_, run) ← takeTurn pacing elapsed { machine := machine, executed := executed }
    return run.machine
  | other => some (machine.use other)

/-- A machine after it was used several times. -/
def uses (machine : Machine) (made : List Machine.Use) : Option Machine := made.foldlM use machine

section
variable {machine : Machine} (h : machine.memory.Fit)
include h

theorem apply_eq (event : Machine.Event) : apply machine event = some (event.apply machine) := by
  cases event with
  | step => exact bind_of_eq (stepMachine_eq h) rfl
  | runForCycles cycles => exact bind_of_eq (runUnless_eq h) rfl
  | runUntilFrame =>
    have ready : ({ machine with frameDone := false } : Machine).memory.Fit := h
    exact bind_of_eq (runUnless_eq ready) rfl
  | runUntil look limit memory => exact bind_of_eq (runUntil_eq h) rfl
  | press buttons => rfl

theorem use_eq (made : Machine.Use) : use machine made = some (machine.use made) := by
  cases made with
  | call made => exact bind_of_eq (call_eq h.inRange made) rfl
  | cartridge operation =>
    exact bind_of_eq (changeCart_eq h.cart fun _ inRange => operate_eq inRange operation) rfl
  | load image now =>
    refine bind_of_eq (ofImage_eq image now) ?_
    show _ = some (machine.load image now)
    unfold Machine.load
    cases Cartridge.ofImage image now <;> rfl
  | event event => exact apply_eq h event
  | turn pacing elapsed executed =>
    have fit : ({ machine := machine, executed := executed } : PacedRun).machine.memory.Fit := h
    exact bind_of_eq (takeTurn_eq fit pacing elapsed) rfl
  | loadBoot | setSink | setCpu | mapBoot | reset | takeSerial | takeFrame => rfl

theorem uses_eq (made : List Machine.Use) : uses machine made = some (machine.uses made) := by
  induction made generalizing machine with
  | nil => rfl
  | cons first more ih => exact bind_of_eq (use_eq h first) (ih (Machine.fit_use h first))

end

/-- **A machine can be used in registers.**  From a new one on, no sequence of uses is without a result; it
ends where the plain machine ends, with the numbers of all devices in their ranges, and whatever is read there
is what the plain machine shows. -/
theorem fits_in_registers (journal : Journal) (made : List Machine.Use) :
    let new : Machine := { Machine.afterBoot with journal := journal }
    uses new made = some (new.uses made) ∧ (new.uses made).memory.InRange ∧
      ∀ address, read (new.uses made).memory address = some ((new.uses made).memory.read address) := by
  intro new
  have empty : ∀ cart, new.memory.cart = some cart → cart.InRange := by
    rintro _ ⟨⟩
  have fit := Machine.fit_uses ⟨.afterBoot, empty⟩ made
  exact ⟨uses_eq ⟨.afterBoot, empty⟩ made, fit.inRange, read_eq fit.cart⟩

end Narrow
end DotMatrix
