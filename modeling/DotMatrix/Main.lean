import DotMatrix.Console.Session
import DotMatrix.Console.Transcript
import DotMatrix.Picture

/-! # The program

The host of a session in the real world: files are those of the file system, notices go to standard
error, and time is the time of the world. Nothing is decided here.
-/
namespace DotMatrix.Console

/-- Show the notices written so far, and forget them. -/
def showNotices (journal : Journal) : IO Journal := do
  for notice in journal.notices do
    IO.eprint (Transcript.entry notice)
  return { journal with notices := #[] }

/-- Show what was written down in a turn. -/
def showTurn (viewing : Viewing) : IO Viewing := do
  let machine := viewing.run.machine
  let journal ← showNotices machine.journal
  return { viewing with run := { viewing.run with machine := { machine with journal := journal } } }

/-- Turns until the time is over, if that can be told, or a fault ends the run. -/
partial def viewUntil (pacing : Pacing) (start : Nat) (duration : Option Nat) (viewing : Viewing) :
    IO (Option Fault × Viewing) := do
  let elapsed := (← IO.monoNanosNow) - start
  let (outcome, viewing) := viewing.turn pacing elapsed
  let viewing ← showTurn viewing
  match outcome with
  | .error fault => return (some fault, viewing)
  | .ok idle =>
    if duration.any (· ≤ elapsed) then
      return (none, viewing)
    if idle then
      IO.sleep (UInt32.ofNat (pacing.idleSleep / 1000000))
    viewUntil pacing start duration viewing

/-- The reason behind a number of the file system, in its words if it is none of the usual ones. Some
operations give the number with its sign turned round. -/
def problemOf (number : UInt32) (words : String) : FileProblem :=
  match if number < 0x80000000 then number else -number with
  | 2 => .missing
  | 20 => .notDirectory
  | 21 => .isDirectory
  | 36 => .nameTooLong
  | code => .other (words ++ " (os error " ++ toString code ++ ")")

/-- The reason for which the file system refuses something. -/
def fileProblem (error : IO.Error) : FileProblem :=
  match error with
  | .noFileOrDirectory _ code words | .inappropriateType _ code words
  | .permissionDenied _ code words | .invalidArgument _ code words => problemOf code words
  | other => .other (toString other)

instance : Host IO where
  readFile path := do
    match ← (IO.FS.readBinFile path).toBaseIO with
    | .ok bytes => return .ok bytes
    | .error error => return .error (fileProblem error)
  savePicture path screen := do
    match ← (IO.FS.writeBinFile path (Picture.encode screen)).toBaseIO with
    | .ok _ => return .ok ()
    | .error error => return .error (fileProblem error)
  print := IO.print
  view pacing seconds machine := do
    let start ← IO.monoNanosNow
    let journal ← showNotices machine.journal
    let viewing := Viewing.start pacing { machine with journal := journal }
    let deadline := Ending.deadline? (start / 1000000000) seconds
    let (fault, viewing) ←
      viewUntil pacing start (deadline.map fun _ => seconds * 1000000000) viewing
    return (.of deadline fault, viewing.close fault)

end DotMatrix.Console

open DotMatrix.Console in
/-- Run the program with its arguments. -/
def main (arguments : List String) : IO UInt32 := do
  match ← runArguments (m := IO) arguments (← IO.getEnv "RUST_LOG") with
  | .error problem =>
    IO.eprintln ("error: " ++ problem.message ++ "\n\n" ++ usage)
    return usageExitCode.toUInt32
  | .ok report =>
    let _ ← showNotices report.journal
    return report.exitCode.toUInt32
