import DotMatrix.Machine.Pacing

/-! # Viewing in real time

A paced run with somebody who looks at the frames. After each turn the newest frame is taken, if
there is one, and counted; snapshots go to the journal. The clock of the cartridge moves with the
run.
-/
namespace DotMatrix.Console

/-- How the viewing ended. -/
inductive Ending where
  /-- The time was over. -/
  | timeOver
  | fault (fault : Fault)
  /-- The clock cannot tell when the time is over. -/
  | noDeadline
  deriving DecidableEq

namespace Ending

/-- The seconds that the clock can tell; there is no second after them. -/
def clockRange : Nat := Nat.pow 2 63

/-- The second in which the time is over. -/
def deadline? (now seconds : Nat) : Option Nat :=
  if now + seconds < clockRange then some (now + seconds) else none

/-- The ending by the deadline and by the fault that came before it. A missing deadline is noticed
after the fault, and outweighs it. -/
def of (deadline : Option Nat) (fault : Option Fault) : Ending :=
  match deadline, fault with
  | none, _ => noDeadline
  | some _, some fault => .fault fault
  | some _, none => timeOver

end Ending

/-- A paced run and the frames shown of it. -/
structure Viewing where
  run : PacedRun
  displayed : Nat := 0

namespace Viewing

/-- Begin to view a machine. -/
def start (pacing : Pacing) (machine : Machine) : Viewing :=
  { run := .start pacing (machine.setSink .empty) }

/-- Take the newest frame. -/
def display (viewing : Viewing) : Viewing :=
  match viewing with
  | ⟨⟨⟨cpu, memory, sink, frameDone, journal⟩, executed, shown⟩, displayed⟩ =>
    match sink.map Handoff.take with
    | some (frame, sink) =>
      ⟨⟨⟨cpu, memory, some sink, frameDone, journal⟩, executed, shown⟩,
        displayed + (if frame.isSome then 1 else 0)⟩
    | none => ⟨⟨⟨cpu, memory, none, frameDone, journal⟩, executed, shown⟩, displayed⟩

/-- Set the clock of the cartridge. -/
def setClock (viewing : Viewing) (elapsed : Nat) : Viewing :=
  match viewing with
  | ⟨⟨machine, executed, shown⟩, displayed⟩ =>
    let set := fun cart : Cartridge => { cart with now := UInt64.ofNat elapsed }
    ⟨⟨machine.onMemory (·.mapCart set), executed, shown⟩, displayed⟩

/-- Write down a snapshot. -/
def note (viewing : Viewing) (snapshot : Snapshot) : Viewing :=
  match viewing with
  | ⟨⟨machine, executed, shown⟩, displayed⟩ =>
    ⟨⟨{ machine with journal := machine.journal.write .debug fun _ => snapshot.summary },
      executed, shown⟩, displayed⟩

/-- One turn, `elapsed` nanoseconds after the start; also says whether there was nothing to do. -/
def turn (pacing : Pacing) (elapsed : Nat) (viewing : Viewing) : Except Fault Bool × Viewing :=
  match viewing.setClock elapsed with
  | ⟨run, displayed⟩ =>
    match run.turn pacing elapsed with
    | (.error fault, run) => (.error fault, ⟨run, displayed⟩)
    | (.ok ⟨idle, some snapshot⟩, run) =>
      (.ok idle, ((⟨run, displayed⟩ : Viewing).note snapshot).display)
    | (.ok ⟨idle, none⟩, run) => (.ok idle, (⟨run, displayed⟩ : Viewing).display)

/-- End, after a fault or in good order, and say how much was seen. -/
def close (fault : Option Fault) (viewing : Viewing) : Machine :=
  let machine := match fault with
    | some _ => viewing.run.machine
    | none => viewing.run.finish
  { machine with
    journal := machine.journal.write .info fun _ =>
      "displayed " ++ toString viewing.displayed ++ " frames" }

/-- Turns at even distances in time, `done` of them before, until there are none left or a fault ends
the run. -/
def turns (pacing : Pacing) (distance : Nat) :
    (left done : Nat) → Viewing → Option Fault × Viewing
  | 0, _, viewing => (none, viewing)
  | left + 1, done, viewing =>
    match viewing.turn pacing ((done + 1) * distance) with
    | (.error fault, viewing) => (some fault, viewing)
    | (.ok _, viewing) => turns pacing distance left (done + 1) viewing

end Viewing
end DotMatrix.Console
