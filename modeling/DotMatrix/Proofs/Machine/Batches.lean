import DotMatrix.Console.Options
import DotMatrix.Proofs.Machine.Watching

/-! # Batches

A batch has no bound of its own: it calls for frame after frame, and after each call asks whether a limit is
reached.  That it ends, rests on the calls: each takes some time, whatever the program does and whether the
LCD is on or not, so that the processor counts on (`cycles_called`), and none takes much more than the time
of a frame (`total_runUntilFrame`).  Up to a call the batch has done nothing but the calls before it
(`runBatch_called`), and so it ends with the first one that reaches a limit.
-/
namespace DotMatrix

/-! ## Limits -/

namespace Console.Options

/-- The frames that end a batch, if any number does; it is sixty if nothing is asked for. -/
def frameLimit (options : Options) : Option Nat :=
  if options.frames = none ∧ options.cycles = none then some 60 else options.frames

/-- **A batch is over** after so many calls, when the processor has counted so many T-cycles. -/
def Over (options : Options) (calls counted : Nat) : Prop :=
  (∃ most, options.frameLimit = some most ∧ most ≤ calls) ∨
    ∃ most, options.cycles = some most ∧ most ≤ counted

theorem reached_limit_iff (options : Options) (calls counted : Nat) :
    options.limit.reached calls counted = true ↔ options.Over calls counted := by
  unfold limit Over frameLimit
  rcases options.frames with _ | frames <;> rcases options.cycles with _ | cycles <;>
    simp [BatchLimit.reached]
  exact Iff.rfl

end Console.Options

/-- Every limit is reached some time, if the processor counts on. -/
theorem BatchLimit.exists_reached (limit : BatchLimit) :
    ∃ done, ∀ counted, done ≤ counted → limit.reached (done + 1) counted = true := by
  cases limit with
  | frames count cycles =>
    refine ⟨count, ?_⟩
    intro counted _
    cases cycles <;> simp [reached]
  | cycles count =>
    refine ⟨count, ?_⟩
    intro counted passed
    simpa [reached] using passed

namespace Machine

/-! ## One call -/

/-- A bounded run passes its limit by less than a step takes, for whatever reason it stops. -/
theorem total_runUnless {stop : Machine → Bool} {limit spent total : Nat} {machine after : Machine}
    (ran : machine.runUnless stop limit spent = (.ok total, after)) (early : spent < limit + 24) :
    total < limit + 24 := by
  fun_induction runUnless stop limit spent machine with
  | case1 spent machine begun cycles next took ih =>
    rw [Bool.and_eq_true, decide_eq_true_iff] at begun
    have cost := cost_le took
    exact ih ran (by omega)
  | case2 => cases ran
  | case3 =>
    obtain ⟨rfl, rfl⟩ := ran
    exact early

/-- No call takes much longer than a frame. -/
theorem total_runUntilFrame {machine after : Machine} {total : Nat}
    (ran : machine.runUntilFrame = (.ok total, after)) : total < 70224 + 24 :=
  total_runUnless ran (by decide)

/-! ## Calls in a row -/

/-- The machine after a number of calls; after every sixtieth a line about the processor was written. -/
def called (machine : Machine) : Nat → Machine
  | 0 => machine
  | calls + 1 => (called machine calls).runUntilFrame.2.noteFrame (calls + 1)

/-- The call behind a number of others does not fail. -/
def Calls (machine : Machine) (calls : Nat) : Prop :=
  ∃ total, (machine.called calls).runUntilFrame.1 = .ok total

variable {machine : Machine}

/-- A call that does not fail: the processor counts what it takes. -/
theorem Calls.cycles {calls : Nat} (went : machine.Calls calls) :
    (machine.called calls).cpu.cycles < (machine.called (calls + 1)).cpu.cycles ∧
      (machine.called (calls + 1)).cpu.cycles < (machine.called calls).cpu.cycles + 70224 + 24 := by
  obtain ⟨total, went⟩ := went
  have ran : (machine.called calls).runUntilFrame =
      (.ok total, (machine.called calls).runUntilFrame.2) := Prod.ext went rfl
  obtain ⟨some, counted⟩ := cycles_runUntilFrame ran
  have short := total_runUntilFrame ran
  rw [called, cpu_noteFrame, counted]
  omega

/-- The processor counts on from call to call. -/
theorem cycles_called {calls : Nat} (went : ∀ done < calls, machine.Calls done) :
    machine.cpu.cycles + calls ≤ (machine.called calls).cpu.cycles := by
  induction calls with
  | zero => exact Nat.le_refl _
  | succ calls ih =>
    have before := ih fun done earlier => went done (by omega)
    have more := (went calls (Nat.lt_succ_self calls)).cycles
    omega

section
variable {limit : BatchLimit} {done total : Nat} {next : Machine}

theorem runBatch_of_error {fault : Fault} (ran : machine.runUntilFrame = (.error fault, next)) :
    machine.runBatch limit done = (.error fault, next) := by
  rw [runBatch, ran]

theorem runBatch_of_ok (ran : machine.runUntilFrame = (.ok total, next)) :
    machine.runBatch limit done =
      if limit.reached (done + 1) next.cpu.cycles then (.ok (), next.noteFrame (done + 1))
      else (next.noteFrame (done + 1)).runBatch limit (done + 1) := by
  rw [runBatch, ran]

end

/-! ## Calls of a batch -/

section
variable {limit : BatchLimit} (machine)

/-- A batch goes on after the call behind a number of others: that call does not fail, and no limit is
reached with it. -/
def CallsOn (limit : BatchLimit) (calls : Nat) : Prop :=
  machine.Calls calls ∧ ¬ limit.reached (calls + 1) (machine.called (calls + 1)).cpu.cycles = true

variable {machine}

/-- **A batch that has come behind a number of calls** has done nothing but these, and goes on from there. -/
theorem runBatch_called {calls : Nat} (on : ∀ done < calls, machine.CallsOn limit done) :
    machine.runBatch limit 0 = (machine.called calls).runBatch limit calls := by
  induction calls with
  | zero => rfl
  | succ calls ih =>
    obtain ⟨⟨total, went⟩, unreached⟩ := on calls (Nat.lt_succ_self calls)
    have ran : (machine.called calls).runUntilFrame =
        (.ok total, (machine.called calls).runUntilFrame.2) := Prod.ext went rfl
    rw [called, cpu_noteFrame] at unreached
    rw [ih fun done earlier => on done (by omega), runBatch_of_ok ran, if_neg unreached]
    rfl

variable (limit machine)

/-- **No batch goes on for ever.** -/
theorem exists_last_call : ∃ calls, (∀ done < calls, machine.CallsOn limit done) ∧
    ¬ machine.CallsOn limit calls := by
  apply exists_first
  intro on
  obtain ⟨done, reached⟩ := limit.exists_reached
  have counted := cycles_called fun earlier (_ : earlier < done + 1) => (on earlier).1
  exact (on done).2 (reached _ (by omega))

end

/-! ## How a batch ends -/

/-- Before the call that reaches them, the T-cycles asked for have not been counted, unless they had been
before the batch. -/
theorem cycles_called_le {options : Console.Options} {calls most : Nat}
    (asked : options.cycles = some most)
    (before : ∀ done < calls, ¬ options.Over (done + 1) (machine.called (done + 1)).cpu.cycles) :
    (machine.called calls).cpu.cycles ≤ max most machine.cpu.cycles := by
  cases calls with
  | zero => exact Nat.le_max_right _ _
  | succ done =>
    have early : ¬ most ≤ (machine.called (done + 1)).cpu.cycles :=
      fun enough => before done (Nat.lt_succ_self done) (.inr ⟨most, asked, enough⟩)
    omega

/-- **How a batch ends** with the call behind a number of others. -/
structure BatchEnds (options : Console.Options) (machine : Machine) (earlier : Nat)
    (result : Except Fault Unit) (after : Machine) : Prop where
  /-- No call before the last one fails, and no limit is reached with it. -/
  before : ∀ done < earlier, machine.Calls done ∧
    ¬ options.Over (done + 1) (machine.called (done + 1)).cpu.cycles
  /-- A limit is reached with the last call; or the last call fails, with the same fault. -/
  ends : machine.Calls earlier ∧ options.Over (earlier + 1) after.cpu.cycles ∧
      result = .ok () ∧ after = machine.called (earlier + 1) ∨
    ∃ fault, (machine.called earlier).runUntilFrame = (.error fault, after) ∧ result = .error fault
  /-- A batch with a limit of T-cycles passes it by little more than a frame, whichever limit ends it. -/
  short : ∀ most, options.cycles = some most → result = .ok () →
    after.cpu.cycles < max most machine.cpu.cycles + 70224 + 24

/-- **Every batch ends with the first call that reaches a limit**, or that fails: whatever the program does,
and whichever limits were asked for. -/
theorem batch_ends (options : Console.Options) (machine : Machine) : ∃ earlier result after,
    machine.runBatch options.limit 0 = (result, after) ∧
      BatchEnds options machine earlier result after := by
  obtain ⟨earlier, on, stops⟩ := machine.exists_last_call options.limit
  have before : ∀ done < earlier, machine.Calls done ∧
      ¬ options.Over (done + 1) (machine.called (done + 1)).cpu.cycles := by
    intro done sooner
    obtain ⟨went, unreached⟩ := on done sooner
    exact ⟨went, mt (options.reached_limit_iff _ _).mpr unreached⟩
  have batch := runBatch_called on
  rcases ran : (machine.called earlier).runUntilFrame with ⟨fault | total, next⟩
  · refine ⟨earlier, .error fault, next, ?_, before, .inr ⟨fault, ran, rfl⟩, ?_⟩
    · rw [batch, runBatch_of_error ran]
    · exact fun _ _ => nofun
  · have went : machine.Calls earlier := ⟨total, by rw [ran]⟩
    have reached : options.limit.reached (earlier + 1) (machine.called (earlier + 1)).cpu.cycles = true :=
      Classical.byContradiction fun unreached => stops ⟨went, unreached⟩
    have last : machine.called (earlier + 1) = next.noteFrame (earlier + 1) := by rw [called, ran]
    refine ⟨earlier, .ok (), machine.called (earlier + 1), ?_, before,
      .inl ⟨went, (options.reached_limit_iff _ _).mp reached, rfl, rfl⟩, ?_⟩
    · rw [batch, runBatch_of_ok ran, last]
      rw [last, cpu_noteFrame] at reached
      exact if_pos reached
    · intro most asked _
      have passed := went.cycles.2
      have counted := cycles_called_le asked fun done sooner => (before done sooner).2
      omega

end Machine
end DotMatrix
