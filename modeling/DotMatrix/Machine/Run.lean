import DotMatrix.Machine.Basic

/-! # Bounded runs

Steps in a row until enough T-cycles have passed, a frame is finished, or a condition holds. Runs end
whatever the program does, since each step that does not fail takes time. A run stops between steps,
so it may pass its limit by what the last step took over.
-/
namespace DotMatrix.Machine

/-- T-cycles of a whole frame. -/
def cyclesPerFrame : Nat := 70224

/-- Steps until `limit` T-cycles have passed, `spent` of them before, or until `stop` holds between
two steps. The result is the T-cycles that have passed. -/
def runUnless (stop : Machine → Bool) (limit spent : Nat) (machine : Machine) :
    Except Fault Nat × Machine :=
  if spent < limit && !stop machine then
    match _took : machine.step with
    | (.ok cycles, machine) => runUnless stop limit (spent + cycles) machine
    | (.error fault, machine) => (.error fault, machine)
  else (.ok spent, machine)
termination_by limit - spent
decreasing_by
  have := (cost_of_step _took).1
  simp_all only [Bool.and_eq_true, decide_eq_true_eq]
  omega

/-- The processor counts what a run takes. -/
theorem cycles_runUnless {stop : Machine → Bool} {limit spent total : Nat} {machine after : Machine}
    (h : runUnless stop limit spent machine = (.ok total, after)) :
    spent ≤ total ∧ after.cpu.cycles + spent = machine.cpu.cycles + total := by
  fun_induction runUnless stop limit spent machine with
  | case1 spent machine _ cycles next took ih =>
    have cost := cost_of_step took
    have rest := ih h
    omega
  | case2 => simp at h
  | case3 =>
    simp only [Prod.mk.injEq, Except.ok.injEq] at h
    obtain ⟨rfl, rfl⟩ := h
    exact ⟨Nat.le_refl _, rfl⟩

/-- A run that begins does at least one step. -/
theorem lt_of_runUnless {stop : Machine → Bool} {limit spent total : Nat} {machine after : Machine}
    (begins : (decide (spent < limit) && !stop machine) = true)
    (h : runUnless stop limit spent machine = (.ok total, after)) : spent < total := by
  rw [runUnless, if_pos begins] at h
  split at h
  · rename_i took
    have cost := cost_of_step took
    have rest := cycles_runUnless h
    omega
  · simp at h

/-- Run for at least a number of T-cycles. -/
def runForCycles (cycles : Nat) (machine : Machine) : Except Fault Nat × Machine :=
  runUnless (fun _ => false) cycles 0 machine

/-- Run until a frame is finished, and no longer than the time of one: while the LCD is off, none
will be. -/
def runUntilFrame (machine : Machine) : Except Fault Nat × Machine :=
  runUnless frameDone cyclesPerFrame 0 { machine with frameDone := false }

/-- The run for a frame takes time, which the processor counts. -/
theorem cycles_runUntilFrame {machine after : Machine} {total : Nat}
    (h : machine.runUntilFrame = (.ok total, after)) :
    0 < total ∧ after.cpu.cycles = machine.cpu.cycles + total := by
  unfold runUntilFrame at h
  have begun := lt_of_runUnless (by simp [cyclesPerFrame]) h
  have rest := cycles_runUnless h
  exact ⟨begun, rest.2⟩

/-- Look at the machine between any two steps, and before the first, until what is seen is what is
looked for or `limit` T-cycles have passed, `spent` of them before. The one who looks may remember
things. The result says whether it was found. -/
def runUntil {σ : Type} (look : Machine → σ → Bool × σ) (limit spent : Nat) (memory : σ)
    (machine : Machine) : Except Fault Bool × σ × Machine :=
  match look machine memory with
  | (true, memory) => (.ok true, memory, machine)
  | (false, memory) =>
    if _ : spent < limit then
      match _took : machine.step with
      | (.ok cycles, machine) => runUntil look limit (spent + cycles) memory machine
      | (.error fault, machine) => (.error fault, memory, machine)
    else (.ok false, memory, machine)
termination_by limit - spent
decreasing_by
  have := (cost_of_step _took).1
  omega

end DotMatrix.Machine
