import DotMatrix.Decimal.Shortest
import DotMatrix.Machine.Run
import DotMatrix.Machine.Snapshot

/-! # Paced runs

A run that keeps up with the time of the world. It goes in turns: in each one the machine runs until
it has done what the time elapsed asks for, at most a frame's worth, and rests if there is nothing to
do. Now and then the one who watches is shown a snapshot.

Time is not read here. A turn is told how many nanoseconds have passed since the run began.
-/
namespace DotMatrix

/-- How fast a machine runs, and how often it is watched. -/
structure Pacing where
  /-- T-cycles in a second. -/
  clockHz : Nat := 4194304
  /-- The least time between two snapshots, in nanoseconds; `none` is longer than any run. -/
  snapshotInterval : Option Nat := some 250000000
  /-- How long to rest with nothing to do, in nanoseconds. -/
  idleSleep : Nat := 1000000
  /-- A factor on the clock; zero and below stand for no pacing at all. -/
  speed : Float := 1.0

namespace Pacing

/-- The T-cycles that should have run after some nanoseconds; `none` if there is no pacing. -/
def budget? (pacing : Pacing) (elapsed : Nat) : Option Nat :=
  if pacing.speed ≤ 0 then none
  else
    let seconds := Float.ofNat elapsed / 1000000000
    some (seconds * Float.ofNat pacing.clockHz * pacing.speed).toUInt64.toNat

/-- Whether a snapshot is due, given when the last one was taken. -/
def snapshotDue (pacing : Pacing) (last : Option Nat) (elapsed : Nat) : Bool :=
  match last, pacing.snapshotInterval with
  | none, _ => true
  | some _, none => false
  | some last, some interval => interval ≤ elapsed - last

end Pacing

/-- A paced run between two turns. -/
structure PacedRun where
  machine : Machine
  /-- T-cycles that have run since it began. -/
  executed : Nat := 0
  /-- When the last snapshot was taken. -/
  shown : Option Nat := none

namespace PacedRun

/-- What came of a turn. -/
structure Turn where
  /-- Whether there was nothing to do. -/
  idle : Bool
  /-- The snapshot that was due. -/
  snapshot : Option Snapshot

/-- Begin a run. -/
def start (pacing : Pacing) (machine : Machine) : PacedRun :=
  { machine := { machine with
      journal := machine.journal.write .info fun _ =>
        "emulation started (" ++ toString pacing.clockHz ++ " Hz, speed " ++
          Decimal.text pacing.speed ++ ")" } }

/-- Let the machine run for a number of T-cycles; a fault is written down. -/
def advance (run : PacedRun) (cycles : Nat) : Except Fault Nat × PacedRun :=
  match run with
  | ⟨machine, executed, shown⟩ =>
    match machine.runForCycles cycles with
    | (.ok spent, machine) => (.ok spent, ⟨machine, executed + spent, shown⟩)
    | (.error fault, machine) =>
      (.error fault,
        ⟨{ machine with
            journal := machine.journal.write .error fun _ =>
              "emulation halted: " ++ fault.message }, executed, shown⟩)

/-- Take a snapshot if one is due. -/
def present (pacing : Pacing) (elapsed : Nat) (run : PacedRun) : Option Snapshot × PacedRun :=
  if pacing.snapshotDue run.shown elapsed then
    (some run.machine.snapshot, { run with shown := some elapsed })
  else (none, run)

/-- **One turn**, `elapsed` nanoseconds after the run began. -/
def turn (pacing : Pacing) (elapsed : Nat) (run : PacedRun) : Except Fault Turn × PacedRun :=
  let target := (pacing.budget? elapsed).getD (run.executed + Machine.cyclesPerFrame)
  if run.executed < target then
    match run.advance (min (target - run.executed) Machine.cyclesPerFrame) with
    | (.error fault, run) => (.error fault, run)
    | (.ok _, run) =>
      let (snapshot, run) := run.present pacing elapsed
      (.ok ⟨false, snapshot⟩, run)
  else
    let (snapshot, run) := run.present pacing elapsed
    (.ok ⟨true, snapshot⟩, run)

/-- End a run in good order. -/
def finish (run : PacedRun) : Machine :=
  match run with
  | ⟨machine, _, _⟩ =>
    { machine with
      journal := machine.journal.write .info fun _ =>
        "emulation stopped after " ++ toString machine.frames ++ " frames, " ++
          toString machine.cpu.cycles ++ " cycles" }

/-- Turns in a row until `views` snapshots were shown, `turns` turns are done, or a fault ends the run;
the turn with `turns` left happens at `instant turns`. Gives the snapshots shown, in order, and the
fault. -/
def watch (pacing : Pacing) (instant : Nat → Nat) :
    (turns views : Nat) → PacedRun → List Snapshot → List Snapshot × Option Fault × Machine
  | turns + 1, views + 1, run, shown =>
    match run.turn pacing (instant (turns + 1)) with
    | (.error fault, run) => (shown.reverse, some fault, run.machine)
    | (.ok ⟨_, some snapshot⟩, run) => watch pacing instant turns views run (snapshot :: shown)
    | (.ok ⟨_, none⟩, run) => watch pacing instant turns (views + 1) run shown
  | _, _, run, shown => (shown.reverse, none, run.finish)

end PacedRun
end DotMatrix
