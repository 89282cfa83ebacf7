import DotMatrix.Machine.Run

/-! # Batches of frames

Frame after frame as fast as possible, until enough frames or enough T-cycles are done. A batch always
ends, since every frame takes time even if none is finished.
-/
namespace DotMatrix

/-- When a batch is over. -/
inductive BatchLimit where
  /-- After a number of frames, or before that when the processor has counted enough T-cycles. -/
  | frames (count : Nat) (cycles : Option Nat)
  /-- When the processor has counted enough T-cycles. -/
  | cycles (count : Nat)
  deriving DecidableEq

namespace BatchLimit

/-- Whether a batch is over after `done` frames, when the processor has counted `counted`
T-cycles. -/
def reached (limit : BatchLimit) (done counted : Nat) : Bool :=
  match limit with
  | frames count none => count ≤ done
  | frames count (some total) => count ≤ done || total ≤ counted
  | cycles count => count ≤ counted

/-- A bound for what is left of a batch. -/
def left (limit : BatchLimit) (done counted : Nat) : Nat :=
  match limit with
  | frames count _ => count - done
  | cycles count => count - counted

theorem left_lt {limit : BatchLimit} {done counted later : Nat} (time : counted < later)
    (going : ¬ limit.reached (done + 1) later = true) :
    limit.left (done + 1) later < limit.left done counted := by
  unfold reached at going
  unfold left
  split at going <;> simp only [decide_eq_true_eq, Bool.or_eq_true, not_or] at going ⊢ <;> omega

end BatchLimit

namespace Machine

/-- The frames between two lines about the state of the processor. -/
def framesPerLine : Nat := 60

/-- Write a line about the state of the processor after every sixtieth frame. -/
def noteFrame (done : Nat) (machine : Machine) : Machine :=
  if done % framesPerLine = 0 then
    { machine with
      journal := machine.journal.write .debug fun _ =>
        "frame " ++ toString done ++ ": " ++ machine.cpu.summary }
  else machine

@[simp]
theorem cpu_noteFrame (done : Nat) (machine : Machine) :
    (machine.noteFrame done).cpu = machine.cpu := by
  unfold noteFrame
  split <;> rfl

/-- Frames until the limit is reached, `done` of them before; at least one. -/
def runBatch (limit : BatchLimit) (done : Nat) (machine : Machine) : Except Fault Unit × Machine :=
  match _ran : machine.runUntilFrame with
  | (.error fault, machine) => (.error fault, machine)
  | (.ok _, machine) =>
    if limit.reached (done + 1) machine.cpu.cycles then (.ok (), machine.noteFrame (done + 1))
    else runBatch limit (done + 1) (machine.noteFrame (done + 1))
termination_by limit.left done machine.cpu.cycles
decreasing_by
  rename_i going
  have time := cycles_runUntilFrame _ran
  rw [cpu_noteFrame]
  exact BatchLimit.left_lt (by omega) going

end Machine
end DotMatrix
