import Mathlib.Data.Nat.Find
import DotMatrix.Proofs.Machine.Pieces

/-! # Runs that watch for something

A run until something is seen looks at the machine at every boundary between two steps, and at nothing else.
It stops at the first boundary that gives a reason to (`Hit`): what is looked for is there, or the T-cycles
asked for have passed.  So the run is fixed by the row of boundaries, which does not depend on who looks:
up to a boundary it has done nothing but the steps before it (`runUntil_boundary`), and the time of these
steps alone brings it to an end (`exists_stop`).
-/
namespace DotMatrix
namespace Machine

/-! ## Boundaries -/

/-- The T-cycles that a step takes, if it does not fail. -/
def stepTime (machine : Machine) : Nat :=
  match machine.step.1 with
  | .ok spent => spent
  | .error _ => 0

/-- The machine at the boundary behind a number of steps. -/
def boundary (machine : Machine) : Nat → Machine
  | 0 => machine
  | steps + 1 => (boundary machine steps).step.2

/-- The T-cycles that have run up to a boundary. -/
def timeAt (machine : Machine) : Nat → Nat
  | 0 => 0
  | steps + 1 => timeAt machine steps + (machine.boundary steps).stepTime

/-- The step behind a boundary does not fail. -/
def Steps (machine : Machine) (steps : Nat) : Prop :=
  ∃ spent, (machine.boundary steps).step.1 = .ok spent

section
variable {machine : Machine}

/-- A step that does not fail leads from one boundary to the next, in the time between them. -/
theorem Steps.took {steps : Nat} (went : machine.Steps steps) : ∃ spent,
    (machine.boundary steps).step = (.ok spent, machine.boundary (steps + 1)) ∧
      machine.timeAt (steps + 1) = machine.timeAt steps + spent := by
  obtain ⟨spent, went⟩ := went
  refine ⟨spent, Prod.ext went rfl, ?_⟩
  rw [timeAt, stepTime, went]

/-- Time passes from boundary to boundary, and the processor counts it. -/
theorem time_boundary {steps : Nat} (went : ∀ earlier < steps, machine.Steps earlier) :
    4 * steps ≤ machine.timeAt steps ∧
      (machine.boundary steps).cpu.cycles = machine.cpu.cycles + machine.timeAt steps := by
  induction steps with
  | zero => exact ⟨Nat.le_refl 0, rfl⟩
  | succ steps ih =>
    obtain ⟨least, counted⟩ := ih fun earlier before => went earlier (by omega)
    obtain ⟨spent, took, time⟩ := (went steps (by omega)).took
    obtain ⟨cost, cycles⟩ := cost_of_step took
    omega

end

/-! ## Looking -/

section
variable {σ : Type} (look : Machine → σ → Bool × σ) (limit : Nat) (memory : σ) (machine : Machine)

/-- What the one who looks remembers of the boundaries below a number, each looked at once. -/
def remembered : Nat → σ
  | 0 => memory
  | steps + 1 => (look (machine.boundary steps) (remembered steps)).2

/-- What is looked for is there at a boundary. -/
def seen (steps : Nat) : Bool :=
  (look (machine.boundary steps) (remembered look memory machine steps)).1

/-- **A boundary at which the run has a reason to stop.** -/
def Hit (steps : Nat) : Prop := seen look memory machine steps = true ∨ limit ≤ machine.timeAt steps

/-- The run goes on behind a boundary. -/
def GoesOn (steps : Nat) : Prop := ¬ Hit look limit memory machine steps ∧ machine.Steps steps

variable {look limit memory machine}

/-- **A run that has come to a boundary** has made the steps before it and looked at the boundaries before
it, and goes on from there. -/
theorem runUntil_boundary {steps : Nat}
    (on : ∀ earlier < steps, GoesOn look limit memory machine earlier) :
    machine.runUntil look limit 0 memory =
      (machine.boundary steps).runUntil look limit (machine.timeAt steps)
        (remembered look memory machine steps) := by
  induction steps with
  | zero => rfl
  | succ steps ih =>
    obtain ⟨unhit, went⟩ := on steps (Nat.lt_succ_self steps)
    obtain ⟨unseen, early⟩ := not_or.mp unhit
    obtain ⟨spent, took, time⟩ := went.took
    rw [ih fun earlier before => on earlier (by omega), time]
    exact runUntil_of_ok (Prod.ext (Bool.eq_false_iff.mpr unseen) rfl) (Nat.lt_of_not_le early) took

/-- A run that has come to a boundary has not passed its limit by more than a step takes. -/
theorem timeAt_lt {steps : Nat} (on : ∀ earlier < steps, GoesOn look limit memory machine earlier) :
    machine.timeAt steps < limit + 24 := by
  cases steps with
  | zero => exact Nat.lt_of_lt_of_le (by decide : 0 < 24) (Nat.le_add_left 24 limit)
  | succ steps =>
    obtain ⟨unhit, went⟩ := on steps (Nat.lt_succ_self steps)
    obtain ⟨-, early⟩ := not_or.mp unhit
    obtain ⟨spent, took, time⟩ := went.took
    have cost := cost_le took
    omega

/-- What does not hold for ever ends at a first place. -/
theorem exists_first {holds : Nat → Prop} (ends : ¬ ∀ n, holds n) :
    ∃ n, (∀ m < n, holds m) ∧ ¬ holds n := by
  classical
  have failing : ∃ n, ¬ holds n := Classical.not_forall.mp ends
  refine ⟨Nat.find failing, ?_, Nat.find_spec failing⟩
  intro m before
  exact Classical.not_not.mp (Nat.find_min failing before)

variable (look limit memory machine)

/-- **No run goes on for ever**: there is a first boundary at which it does not. -/
theorem exists_stop : ∃ steps, (∀ earlier < steps, GoesOn look limit memory machine earlier) ∧
    ¬ GoesOn look limit memory machine steps := by
  apply exists_first
  intro on
  have passed := (time_boundary fun earlier (_ : earlier < limit) => (on earlier).2).1
  exact (on limit).1 (.inr (by omega))

/-! ## Taking notes -/

/-- Look in the same way, and note every machine that is looked at. -/
def noting (machine : Machine) (kept : σ × List Machine) : Bool × σ × List Machine :=
  let (found, memory) := look machine kept.1
  (found, memory, kept.2 ++ [machine])

theorem remembered_noting (steps : Nat) : remembered (noting look) (memory, []) machine steps =
    (remembered look memory machine steps, (List.range steps).map machine.boundary) := by
  induction steps with
  | zero => rfl
  | succ steps ih =>
    rw [remembered, ih, List.range_succ, List.map_append]
    rfl

theorem seen_noting (steps : Nat) :
    seen (noting look) (memory, []) machine steps = seen look memory machine steps := by
  rw [seen, remembered_noting]
  rfl

/-- Notes give no reason to stop, and take none away. -/
theorem hit_noting (steps : Nat) : Hit (noting look) limit (memory, []) machine steps ↔
    Hit look limit memory machine steps := by
  rw [Hit, seen_noting, Hit]

theorem goesOn_noting (steps : Nat) : GoesOn (noting look) limit (memory, []) machine steps ↔
    GoesOn look limit memory machine steps := by
  rw [GoesOn, hit_noting, GoesOn]

/-! ## How a run ends -/

/-- **How a run ends** that goes on at the boundaries below a number, and not at this one. -/
structure EndsAt (steps : Nat) (result : Except Fault Bool) (after : Machine) : Prop where
  /-- At the boundaries before, there is no reason to stop, and the steps behind them do not fail. -/
  before : ∀ earlier < steps, ¬ Hit look limit memory machine earlier ∧ machine.Steps earlier
  /-- There is a reason to stop, and the result says which; or the step behind the boundary fails. -/
  ends : Hit look limit memory machine steps ∧ result = .ok (seen look memory machine steps) ∧
      after = machine.boundary steps ∨
    ¬ Hit look limit memory machine steps ∧ ∃ fault, result = .error fault ∧
      (machine.boundary steps).step = (.error fault, after)
  /-- The run passes its limit by less than a step takes, and without any time it makes no step. -/
  short : machine.timeAt steps < limit + 24 ∧ (limit = 0 → steps = 0 ∧ machine.timeAt steps = 0)
  /-- The processor counts the time. -/
  counted : (machine.boundary steps).cpu.cycles = machine.cpu.cycles + machine.timeAt steps

variable {look limit memory machine}

/-- The last look of a run, and what it returns. -/
theorem exists_result {steps : Nat}
    (on : ∀ earlier < steps, GoesOn look limit memory machine earlier)
    (stops : ¬ GoesOn look limit memory machine steps) : ∃ result after,
      machine.runUntil look limit 0 memory =
        (result, remembered look memory machine (steps + 1), after) ∧
      EndsAt look limit memory machine steps result after := by
  have run := runUntil_boundary on
  have short : machine.timeAt steps < limit + 24 ∧
      (limit = 0 → steps = 0 ∧ machine.timeAt steps = 0) := by
    refine ⟨timeAt_lt on, ?_⟩
    intro none
    cases steps with
    | zero => exact ⟨rfl, rfl⟩
    | succ steps =>
      obtain ⟨-, early⟩ := not_or.mp (on 0 (Nat.succ_pos steps)).1
      omega
  have counted := (time_boundary fun earlier before => (on earlier before).2).2
  by_cases hit : Hit look limit memory machine steps
  · refine ⟨.ok (seen look memory machine steps), machine.boundary steps, ?_,
      on, .inl ⟨hit, rfl, rfl⟩, short, counted⟩
    rw [run]
    cases found : seen look memory machine steps with
    | true => exact runUntil_of_seen (Prod.ext found rfl)
    | false =>
      have late : limit ≤ machine.timeAt steps := hit.resolve_left (by simp [found])
      exact runUntil_of_late (Prod.ext found rfl) (Nat.not_lt.mpr late)
  · obtain ⟨unseen, early⟩ := not_or.mp hit
    cases failed : (machine.boundary steps).step.1 with
    | ok spent => exact absurd ⟨hit, spent, failed⟩ stops
    | error fault =>
      have took : (machine.boundary steps).step = (.error fault, machine.boundary (steps + 1)) :=
        Prod.ext failed rfl
      refine ⟨.error fault, machine.boundary (steps + 1), ?_,
        on, .inr ⟨hit, fault, rfl, took⟩, short, counted⟩
      rw [run]
      exact runUntil_of_error (Prod.ext (Bool.eq_false_iff.mpr unseen) rfl)
        (Nat.lt_of_not_le early) took

variable (look limit memory machine)

/-- **A run that watches for something stops at the first boundary that gives a reason to**, whatever the
program does and whatever is looked for; the boundaries up to this one are looked at, each once and in
order, and nothing else is. -/
theorem watches : ∃ steps result after,
    EndsAt look limit memory machine steps result after ∧
    machine.runUntil look limit 0 memory =
      (result, remembered look memory machine (steps + 1), after) ∧
    machine.runUntil (noting look) limit 0 (memory, []) =
      (result, (remembered look memory machine (steps + 1),
        (List.range (steps + 1)).map machine.boundary), after) := by
  obtain ⟨steps, on, stops⟩ := exists_stop look limit memory machine
  obtain ⟨result, after, run, ends⟩ := exists_result on stops
  have goesOn := goesOn_noting look limit memory machine
  obtain ⟨result', after', run', ends'⟩ :=
    exists_result (fun earlier before => (goesOn earlier).mpr (on earlier before))
      (mt (goesOn steps).mp stops)
  have same := hit_noting look limit memory machine steps
  refine ⟨steps, result, after, ends, run, ?_⟩
  rw [run', remembered_noting]
  -- Both runs end at the same boundary, and for the same reason.
  rcases ends.ends with ⟨hit, rfl, rfl⟩ | ⟨unhit, fault, rfl, took⟩
  · rcases ends'.ends with ⟨-, rfl, rfl⟩ | ⟨unhit, -⟩
    · rw [seen_noting]
    · exact absurd (same.mpr hit) unhit
  · rcases ends'.ends with ⟨hit, -⟩ | ⟨-, fault', rfl, took'⟩
    · exact absurd (same.mp hit) unhit
    · rw [took] at took'
      cases took'
      rfl

end
end Machine
end DotMatrix
