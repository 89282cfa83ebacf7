import DotMatrix.Machine.Pacing
import DotMatrix.Proofs.Machine.Delivery

/-! # Runs in pieces

A run for a number of T-cycles stops between two steps, so it may pass its limit by what the last step
took over.  Nothing else is left behind: the run itself remembers no more than the T-cycles that have
passed.  So a run, and a second one after it, are one run for as many T-cycles as the first one took and the
second one was asked for (`runForCycles_add`), with the same steps in the same order; and so is any row of
runs (`exists_runInTurn_eq`), among them those of a run that is paced (`PacedRun.InStep`).

The inductions follow `runUnless`: a step that went well, a step that failed, and the end.
-/
namespace DotMatrix

namespace Machine

/-! ## One step of a run -/

section
variable {stop : Machine → Bool} {limit spent : Nat} {machine next : Machine}

theorem runUnless_of_ok {cycles : Nat} (time : spent < limit) (goes : stop machine = false)
    (took : machine.step = (.ok cycles, next)) :
    machine.runUnless stop limit spent = next.runUnless stop limit (spent + cycles) := by
  rw [runUnless, if_pos (by simp [time, goes]), took]

theorem runUnless_of_error {fault : Fault} (time : spent < limit) (goes : stop machine = false)
    (took : machine.step = (.error fault, next)) :
    machine.runUnless stop limit spent = (.error fault, next) := by
  rw [runUnless, if_pos (by simp [time, goes]), took]

theorem runUnless_of_late (late : limit ≤ spent) :
    machine.runUnless stop limit spent = (.ok spent, machine) := by
  rw [runUnless, if_neg (by simp [Nat.not_lt.mpr late])]

/-- A step of the machine takes six M-cycles at most. -/
theorem cost_le {cycles : Nat} (took : machine.step = (.ok cycles, next)) : cycles ≤ 24 := by
  have went : machine.step.1 = .ok cycles := by rw [took]
  obtain ⟨result, -⟩ := step_of_ok went
  rw [← Dialogue.record_snd] at result
  have books := (Cpu.tallies_step machine.cpu).of_record machine.memory
  have few := (Cpu.ticks_step_le machine.cpu).of_record machine.memory
  have paid := books.reported cycles result
  omega

end

section
variable {σ : Type} {look : Machine → σ → Bool × σ} {limit spent : Nat} {memory later : σ}
  {machine next : Machine}

theorem visitedUntil_of_ok {cycles : Nat} (unseen : look machine memory = (false, later))
    (time : spent < limit) (took : machine.step = (.ok cycles, next)) :
    visitedUntil look limit spent memory machine =
      machine :: visitedUntil look limit (spent + cycles) later next := by
  rw [visitedUntil, unseen]
  refine (dif_pos time).trans ?_
  rw [took]

theorem visitedUntil_of_error {fault : Fault} (unseen : look machine memory = (false, later))
    (time : spent < limit) (took : machine.step = (.error fault, next)) :
    visitedUntil look limit spent memory machine = [machine] := by
  rw [visitedUntil, unseen]
  refine (dif_pos time).trans ?_
  rw [took]

theorem visitedUntil_of_late (unseen : look machine memory = (false, later)) (late : limit ≤ spent) :
    visitedUntil look limit spent memory machine = [] := by
  rw [visitedUntil, unseen]
  exact dif_neg (Nat.not_lt.mpr late)

end

/-! ## Runs for a number of T-cycles -/

/-- The machines at which a run for a number of T-cycles makes a step, when `spent` have passed. -/
abbrev visitedFor (limit spent : Nat) (machine : Machine) : List Machine :=
  visitedUntil (fun _ () => (false, ())) limit spent () machine

/-- A run for a number of T-cycles, when `spent` have passed. -/
abbrev runFor (limit spent : Nat) (machine : Machine) : Except Fault Nat × Machine :=
  runUnless (fun _ => false) limit spent machine

section
variable {limit spent : Nat} {machine next : Machine}

theorem runFor_of_ok {cycles : Nat} (time : spent < limit) (took : machine.step = (.ok cycles, next)) :
    machine.runFor limit spent = next.runFor limit (spent + cycles) ∧
      machine.visitedFor limit spent = machine :: next.visitedFor limit (spent + cycles) :=
  ⟨runUnless_of_ok time rfl took, visitedUntil_of_ok rfl time took⟩

theorem runFor_of_error {fault : Fault} (time : spent < limit)
    (took : machine.step = (.error fault, next)) :
    machine.runFor limit spent = (.error fault, next) ∧ machine.visitedFor limit spent = [machine] :=
  ⟨runUnless_of_error time rfl took, visitedUntil_of_error rfl time took⟩

theorem runFor_of_late (late : limit ≤ spent) :
    machine.runFor limit spent = (.ok spent, machine) ∧ machine.visitedFor limit spent = [] :=
  ⟨runUnless_of_late late, visitedUntil_of_late rfl late⟩

end

/-- A run is proved about by the T-cycles that it has left. -/
theorem runFor_induct (limit : Nat) {motive : Nat → Machine → Prop}
    (ends : ∀ spent machine, limit ≤ spent → motive spent machine)
    (fails : ∀ spent machine fault next, spent < limit → machine.step = (.error fault, next) →
      motive spent machine)
    (goes : ∀ spent machine cycles next, spent < limit → machine.step = (.ok cycles, next) →
      motive (spent + cycles) next → motive spent machine)
    (spent : Nat) (machine : Machine) : motive spent machine := by
  fun_induction runUnless (fun _ => false) limit spent machine with
  | case1 spent machine begun cycles next took ih =>
    exact goes spent machine cycles next (by simpa using begun) took ih
  | case2 spent machine begun fault next took =>
    exact fails spent machine fault next (by simpa using begun) took
  | case3 spent machine late => exact ends spent machine (by simpa using late)

/-- **The T-cycles before a run do not matter to it**, apart from being counted. -/
theorem runFor_later (limit spent more : Nat) (machine : Machine) :
    machine.runFor (more + limit) (more + spent) =
        ((machine.runFor limit spent).1.map (more + ·), (machine.runFor limit spent).2) ∧
      machine.visitedFor (more + limit) (more + spent) = machine.visitedFor limit spent := by
  induction spent, machine using runFor_induct limit with
  | ends spent machine late =>
    obtain ⟨run, visited⟩ := @runFor_of_late limit spent machine late
    obtain ⟨run', visited'⟩ := @runFor_of_late (more + limit) (more + spent) machine (by omega)
    rw [run, run', visited, visited']
    exact ⟨rfl, rfl⟩
  | fails spent machine fault next time took =>
    obtain ⟨run, visited⟩ := runFor_of_error time took
    obtain ⟨run', visited'⟩ := @runFor_of_error (more + limit) (more + spent) _ _ _ (by omega) took
    rw [run, run', visited, visited']
    exact ⟨rfl, rfl⟩
  | goes spent machine cycles next time took ih =>
    obtain ⟨run, visited⟩ := runFor_of_ok time took
    obtain ⟨run', visited'⟩ := @runFor_of_ok (more + limit) (more + spent) _ _ _ (by omega) took
    rw [Nat.add_assoc] at run' visited'
    rw [run, run', visited, visited', ih.1, ih.2]
    exact ⟨rfl, rfl⟩

/-- **A run that stopped at its limit goes on to a later one.** -/
theorem runFor_of_runFor {first last spent total : Nat} {machine between : Machine}
    (stopped : machine.runFor first spent = (.ok total, between)) (later : first ≤ last) :
    machine.runFor last spent = between.runFor last total ∧
      machine.visitedFor last spent =
        machine.visitedFor first spent ++ between.visitedFor last total := by
  induction spent, machine using runFor_induct first with
  | ends spent machine late =>
    obtain ⟨run, visited⟩ := @runFor_of_late first spent machine late
    rw [run] at stopped
    obtain ⟨rfl, rfl⟩ := stopped
    rw [visited]
    exact ⟨rfl, rfl⟩
  | fails spent machine fault next time took =>
    rw [(runFor_of_error time took).1] at stopped
    cases stopped
  | goes spent machine cycles next time took ih =>
    obtain ⟨run, visited⟩ := runFor_of_ok time took
    obtain ⟨run', visited'⟩ := @runFor_of_ok last spent _ _ _ (by omega) took
    rw [run] at stopped
    obtain ⟨rest, steps⟩ := ih stopped
    rw [run', visited, visited', rest, steps]
    exact ⟨rfl, rfl⟩

/-- A run passes its limit by less than the time of the longest step. -/
theorem total_of_runFor {limit spent total : Nat} {machine after : Machine}
    (ran : machine.runFor limit spent = (.ok total, after)) (early : spent < limit + 24) :
    limit ≤ total ∧ total < limit + 24 := by
  induction spent, machine using runFor_induct limit with
  | ends spent machine late =>
    rw [(runFor_of_late late).1] at ran
    obtain ⟨rfl, rfl⟩ := ran
    exact ⟨late, early⟩
  | fails spent machine fault next time took =>
    rw [(runFor_of_error time took).1] at ran
    cases ran
  | goes spent machine cycles next time took ih =>
    rw [(runFor_of_ok time took).1] at ran
    have cost := cost_le took
    exact ih ran (by omega)

/-- Every step brings a run nearer to its limit by one M-cycle at least. -/
theorem length_visitedFor (limit spent : Nat) (machine : Machine) :
    4 * (machine.visitedFor limit spent).length + spent < max limit spent + 4 := by
  induction spent, machine using runFor_induct limit with
  | ends spent machine late =>
    rw [(runFor_of_late late).2, List.length_nil]
    omega
  | fails spent machine fault next time took =>
    rw [(runFor_of_error time took).2, List.length_singleton]
    omega
  | goes spent machine cycles next time took ih =>
    have cost := (cost_of_step took).1
    rw [(runFor_of_ok time took).2, List.length_cons]
    omega

/-! ## One run after another -/

/-- **Two runs in a row are one run**, for the T-cycles that the first one took and those that the second
one was asked for, whether the second one fails or not. -/
theorem runForCycles_add {first total : Nat} {machine between : Machine}
    (ran : machine.runForCycles first = (.ok total, between)) (second : Nat) :
    machine.runForCycles (total + second) =
        ((between.runForCycles second).1.map (total + ·), (between.runForCycles second).2) ∧
      Event.visited machine (.runForCycles (total + second)) =
        Event.visited machine (.runForCycles first) ++ Event.visited between (.runForCycles second) := by
  have passed := (total_of_runFor ran (by omega)).1
  obtain ⟨run, visited⟩ := runFor_of_runFor ran (Nat.le_add_right_of_le passed)
  obtain ⟨run', visited'⟩ := runFor_later second 0 total between
  exact ⟨run.trans run', visited.trans (congrArg _ visited')⟩

/-- A run for what another one took stops where that one stopped. -/
theorem runForCycles_total {budget total : Nat} {machine after : Machine}
    (ran : machine.runForCycles budget = (.ok total, after)) :
    machine.runForCycles total = (.ok total, after) := by
  have none : after.runForCycles 0 = (.ok 0, after) := (runFor_of_late (Nat.le_refl 0)).1
  obtain ⟨joined, -⟩ := runForCycles_add ran 0
  rw [none] at joined
  exact joined

/-- Runs one after the other, until one of them fails, and the T-cycles that they took together. -/
def runInTurn : List Nat → Machine → Except Fault Nat × Machine
  | [], machine => (.ok 0, machine)
  | budget :: budgets, machine =>
    match machine.runForCycles budget with
    | (.ok spent, next) =>
      match runInTurn budgets next with
      | (result, after) => (result.map (spent + ·), after)
    | (.error fault, next) => (.error fault, next)

/-- The machines at which runs one after the other make a step. -/
def visitedInTurn : List Nat → Machine → List Machine
  | [], _ => []
  | budget :: budgets, machine =>
    Event.visited machine (.runForCycles budget) ++
      match machine.runForCycles budget with
      | (.ok _, next) => visitedInTurn budgets next
      | (.error _, _) => []

/-- **Any row of runs is one run**, step by step. -/
theorem exists_runInTurn_eq (budgets : List Nat) (machine : Machine) :
    ∃ budget, machine.runInTurn budgets = machine.runForCycles budget ∧
      machine.visitedInTurn budgets = Event.visited machine (.runForCycles budget) ∧
      ∀ total, (machine.runInTurn budgets).1 = .ok total → budget = total := by
  induction budgets generalizing machine with
  | nil =>
    obtain ⟨run, visited⟩ := @runFor_of_late 0 0 machine (Nat.le_refl 0)
    exact ⟨0, run.symm, visited.symm, fun total ended => Except.ok.inj ended⟩
  | cons first budgets ih =>
    rcases ran : machine.runForCycles first with ⟨fault | spent, next⟩
    · refine ⟨first, ?_, ?_, ?_⟩ <;> simp only [runInTurn, visitedInTurn, ran]
      · exact List.append_nil _
      · exact nofun
    · obtain ⟨second, run, visited, whole⟩ := ih next
      obtain ⟨joined, steps⟩ := runForCycles_add ran second
      refine ⟨spent + second, ?_, ?_, ?_⟩ <;> simp only [runInTurn, visitedInTurn, ran]
      · rw [joined, run]
      · rw [steps, visited]
      · intro total ended
        rcases result : (next.runInTurn budgets).1 with fault | rest
        · rw [result] at ended
          cases ended
        · rw [result] at ended
          rw [whole rest result]
          exact Except.ok.inj ended

end Machine

/-! ## Paced runs -/

/-- The fault that ended a run. -/
def Machine.fault? (result : Except Fault Nat) : Option Fault :=
  match result with
  | .ok _ => none
  | .error fault => some fault

namespace PacedRun
open Machine
variable {machine : Machine} {run : PacedRun}

/-- A paced run is in step with a machine if its turns so far have done what one run of that machine
does. -/
def InStep (machine : Machine) (run : PacedRun) : Prop :=
  machine.runForCycles run.executed = (.ok run.executed, run.machine)

/-- What one run of a machine does, up to what is written down about it: how it ends, and where. -/
def Reaches (machine : Machine) (fault? : Option Fault) (after : Machine) : Prop :=
  ∃ budget journal, fault? = Machine.fault? (machine.runForCycles budget).1 ∧
    after = { (machine.runForCycles budget).2 with journal := journal }

theorem InStep.reaches (h : run.InStep machine) (journal : Journal) :
    Reaches machine none { run.machine with journal := journal } :=
  ⟨run.executed, journal, by rw [h]; rfl, by rw [h]⟩

/-- A snapshot of a machine that one run comes to. -/
def Shows (machine : Machine) (snapshot : Snapshot) : Prop :=
  ∃ budget, snapshot = (machine.runForCycles budget).2.snapshot

/-- Snapshots leave a paced run where it is, and show what one run comes to. -/
theorem InStep.present (h : run.InStep machine) (pacing : Pacing) (elapsed : Nat) :
    (run.present pacing elapsed).2.InStep machine ∧
      ∀ snapshot, (run.present pacing elapsed).1 = some snapshot → Shows machine snapshot := by
  unfold PacedRun.present
  split
  · refine ⟨h, fun snapshot taken => ⟨run.executed, ?_⟩⟩
    rw [h]
    exact (Option.some.inj taken).symm
  · exact ⟨h, nofun⟩

/-- Some more T-cycles keep it in step, unless they fail; and then one run of the machine fails too. -/
theorem InStep.advance (h : run.InStep machine) (budget : Nat) :
    (∃ spent later, run.advance budget = (.ok spent, later) ∧ later.InStep machine) ∨
      ∃ fault later, run.advance budget = (.error fault, later) ∧
        Reaches machine (some fault) later.machine := by
  obtain ⟨joined, -⟩ := runForCycles_add h budget
  rcases ran : run.machine.runForCycles budget with ⟨fault | spent, after⟩ <;> rw [ran] at joined
  · let journal := after.journal.write .error fun _ => "emulation halted: " ++ fault.message
    refine .inr ⟨fault, ⟨{ after with journal := journal }, run.executed, run.shown⟩, ?_,
      run.executed + budget, journal, ?_, ?_⟩
    · simp only [PacedRun.advance, ran]
      rfl
    · rw [joined]
      rfl
    · rw [joined]
  · refine .inl ⟨spent, ⟨after, run.executed + spent, run.shown⟩, ?_, runForCycles_total joined⟩
    simp only [PacedRun.advance, ran]

/-- **A turn of a paced run keeps it in step**, whatever the clock says. -/
theorem InStep.turn (h : run.InStep machine) (pacing : Pacing) (elapsed : Nat) :
    (∃ came later, run.turn pacing elapsed = (.ok came, later) ∧ later.InStep machine ∧
        ∀ snapshot, came.snapshot = some snapshot → Shows machine snapshot) ∨
      ∃ fault later, run.turn pacing elapsed = (.error fault, later) ∧
        Reaches machine (some fault) later.machine := by
  unfold PacedRun.turn
  dsimp only
  split
  · rcases h.advance (min _ cyclesPerFrame) with ⟨spent, later, ran, still⟩ | ⟨fault, later, ran, ends⟩
    · rw [ran]
      exact .inl ⟨_, _, rfl, still.present pacing elapsed⟩
    · rw [ran]
      exact .inr ⟨fault, later, rfl, ends⟩
  · exact .inl ⟨_, _, rfl, h.present pacing elapsed⟩

/-- **A paced run does what one run does**, in however many turns and at whatever instants, and shows
nothing else meanwhile. -/
theorem InStep.watch (h : run.InStep machine) (pacing : Pacing) (instant : Nat → Nat)
    (turns views : Nat) (shown : List Snapshot) (before : ∀ snapshot ∈ shown, Shows machine snapshot) :
    (∀ snapshot ∈ (run.watch pacing instant turns views shown).1, Shows machine snapshot) ∧
      Reaches machine (run.watch pacing instant turns views shown).2.1
        (run.watch pacing instant turns views shown).2.2 := by
  fun_induction PacedRun.watch pacing instant turns views run shown with
  | case1 turns views run shown fault later took =>
    rcases h.turn pacing (instant (turns + 1)) with ⟨came, _, took', -⟩ | ⟨_, _, took', ends⟩
    · rw [took] at took'
      cases took'
    · rw [took] at took'
      cases took'
      exact ⟨fun snapshot member => before snapshot (List.mem_reverse.mp member), ends⟩
  | case2 turns views run shown idle snapshot later took ih =>
    rcases h.turn pacing (instant (turns + 1)) with ⟨came, _, took', still, taken⟩ | ⟨_, _, took', -⟩
    · rw [took] at took'
      cases took'
      exact ih still (List.forall_mem_cons.mpr ⟨taken snapshot rfl, before⟩)
    · rw [took] at took'
      cases took'
  | case3 turns views run shown idle later took ih =>
    rcases h.turn pacing (instant (turns + 1)) with ⟨came, _, took', still, -⟩ | ⟨_, _, took', -⟩
    · rw [took] at took'
      cases took'
      exact ih still before
    · rw [took] at took'
      cases took'
  | case4 =>
    exact ⟨fun snapshot member => before snapshot (List.mem_reverse.mp member), h.reaches _⟩

end PacedRun

namespace Machine

/-! ## Cutting a run -/

/-- **A run may be cut anywhere**: what holds of all runs of a machine for a number of T-cycles. -/
structure Seamless (machine : Machine) : Prop where
  /-- A run ends after so many steps. -/
  ends : ∀ budget, 4 * (Event.visited machine (.runForCycles budget)).length < budget + 4
  /-- A run that does not fail passes its limit by less than six M-cycles, and the processor counts what
  it takes. -/
  time : ∀ first total between, machine.runForCycles first = (.ok total, between) →
    first ≤ total ∧ total < first + 24 ∧ between.cpu.cycles = machine.cpu.cycles + total
  /-- Two runs in a row are one, which makes the same steps and hands over the same frames. -/
  joined : ∀ first total between, machine.runForCycles first = (.ok total, between) → ∀ second,
    let together := Event.visited machine (.runForCycles (total + second))
    let steps := Event.visited machine (.runForCycles first)
    let later := Event.visited between (.runForCycles second)
    machine.runForCycles (total + second) =
        ((between.runForCycles second).1.map (total + ·), (between.runForCycles second).2) ∧
      together = steps ++ later ∧ together.flatMap handed = steps.flatMap handed ++ later.flatMap handed
  /-- Any row of runs is one, as long as it takes. -/
  row : ∀ budgets, ∃ budget, machine.runInTurn budgets = machine.runForCycles budget ∧
    machine.visitedInTurn budgets = Event.visited machine (.runForCycles budget) ∧
    ∀ total, (machine.runInTurn budgets).1 = .ok total → budget = total
  /-- A paced run is one too, in whatever turns and at whatever instants, and what it shows meanwhile
  are machines on the way. -/
  paced : ∀ pacing instant turns views,
    let run := PacedRun.start pacing machine
    let ended := run.watch pacing instant turns views []
    (∀ snapshot ∈ ended.1, PacedRun.Shows run.machine snapshot) ∧
      PacedRun.Reaches run.machine ended.2.1 ended.2.2

/-- **Every run may be cut anywhere**, whatever the program does and whether it ends in a fault or not. -/
theorem seamless (machine : Machine) : Seamless machine where
  ends budget := by
    have few := machine.length_visitedFor budget 0
    rwa [Nat.max_zero] at few
  time first total between ran := by
    obtain ⟨low, high⟩ := total_of_runFor ran (by omega)
    exact ⟨low, high, (cycles_runUnless ran).2⟩
  joined first total between ran second := by
    obtain ⟨run, visited⟩ := runForCycles_add ran second
    exact ⟨run, visited, visited ▸ List.flatMap_append⟩
  row budgets := machine.exists_runInTurn_eq budgets
  paced pacing instant turns views := by
    have none : (PacedRun.start pacing machine).InStep (PacedRun.start pacing machine).machine :=
      (runFor_of_late (Nat.le_refl 0)).1
    exact none.watch pacing instant turns views [] (fun snapshot member => absurd member List.not_mem_nil)

end Machine
end DotMatrix
