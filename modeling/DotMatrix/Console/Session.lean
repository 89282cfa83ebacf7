import DotMatrix.Console.Host
import DotMatrix.Console.Options

/-! # Sessions

One use of the program from the command line: an image is read and run, and what is left of the run
is reported. Whatever goes wrong ends the session with one line.
-/
namespace DotMatrix.Console

/-- How a session ended. -/
structure Report where
  exitCode : UInt8
  journal : Journal

/-- What went wrong, and what was written down before. -/
structure Setback where
  journal : Journal
  /-- The last line, if anything is left to be said. -/
  message : Option String
  exitCode : UInt8 := 1

namespace Setback

/-- The exit code of a session that broke down. -/
def breakdownExitCode : UInt8 := 101

/-- Something that can be said. -/
def saying (message : String) (journal : Journal) : Setback :=
  { journal := journal, message := some message }

/-- The session broke down. -/
def breakdown (journal : Journal) : Setback :=
  { journal := journal, message := none, exitCode := breakdownExitCode }

/-- The report on a session that was set back. -/
def report (setback : Setback) : Report :=
  ⟨setback.exitCode,
    match setback.message with
    | some message => setback.journal.write .error fun _ => message
    | none => setback.journal⟩

end Setback

/-- Work that may be set back. -/
abbrev Task (m : Type → Type) := ExceptT Setback m

/-! ## Text -/

/-- A byte sent over the serial port as it is printed: as itself if it shows, or is a blank or the
end of a line, and else by its number. -/
def serialByte (byte : UInt8) : String :=
  if (0x20 ≤ byte && byte ≤ 0x7E) || byte == 0x0A then String.singleton (Char.ofNat byte.toNat)
  else "\\x" ++ Text.hexByte byte

/-- Everything sent over the serial port, as one line. -/
def serialText (bytes : List UInt8) : String := String.join (bytes.map serialByte) ++ "\n"

/-- What is said about an image that was accepted. -/
def imageLine (path : String) (header : Header) : String :=
  path ++ " (" ++ (if header.destination = .japan then "Japan" else "overseas") ++ ", " ++
    (if header.knowsColour then "CGB-aware" else "DMG") ++ "), licensee " ++ header.licensee

/-! ## Stages -/

section Stages
variable {m : Type → Type} [Monad m] [Host m]

/-- Read the image and put it into a machine. -/
def openImage (options : Options) (journal : Journal) : Task m Machine := do
  match ← (Host.readFile options.image : m _) with
  | .error problem =>
    throw (.saying ("failed to read " ++ options.image ++ ": " ++ problem.message) journal)
  | .ok image =>
    match Cartridge.ofImage image with
    | .error fault => throw (.saying fault.message journal)
    | .ok cart =>
      let journal := journal.writeAll cart.notices
      return { Machine.afterBoot.insert cart with
        journal := journal.write .info fun _ => imageLine options.image cart.header }

/-- Begin with a boot program, if one is given. -/
def openBoot (options : Options) (machine : Machine) : Task m Machine := do
  match options.bootrom with
  | none => return machine
  | some path =>
    match ← (Host.readFile path : m _) with
    | .error problem =>
      throw (.saying ("failed to read boot ROM " ++ path ++ ": " ++ problem.message) machine.journal)
    | .ok image => return machine.loadBoot image

/-- Run the machine, for a time or as fast as possible. -/
def drive (options : Options) (machine : Machine) : Task m Machine := do
  match options.seconds with
  | some seconds =>
    match ← (Host.view { speed := options.speed } seconds machine : m _) with
    | (.timeOver, machine) => return machine
    | (.fault fault, machine) => throw (.saying fault.message machine.journal)
    | (.noDeadline, machine) => throw (.breakdown machine.journal)
  | none =>
    match machine.runBatch options.limit 0 with
    | (.ok _, machine) => return machine
    | (.error fault, machine) => throw (.saying fault.message machine.journal)

/-- Print what was sent over the serial port. -/
def printSerial (machine : Machine) : Task m Machine := do
  let (bytes, machine) := machine.takeSerial
  (Host.print (serialText bytes.toList) : m Unit)
  return machine

/-- Save the picture. -/
def saveScreen (path : String) (machine : Machine) : Task m Machine := do
  match ← (Host.savePicture path machine.screen : m _) with
  | .error problem => throw (.saying problem.message machine.journal)
  | .ok () => return { machine with
      journal := machine.journal.write .info fun _ => "saved screenshot to " ++ path }

/-- Report what is left of the run. -/
def reportOn (options : Options) (machine : Machine) : Task m Machine := do
  let machine := { machine with
    journal := machine.journal.write .info fun _ => machine.snapshot.summary }
  let machine ← if options.serial then printSerial machine else pure machine
  match options.screenshot with
  | some path => saveScreen path machine
  | none => return machine

/-- **A whole session.** -/
def runSession (options : Options) (threshold : Option Level) : m Report := do
  let task : Task m Machine := do
    let machine ← openImage options { threshold := threshold }
    let machine ← openBoot options machine
    let machine ← drive options machine
    reportOn options machine
  match ← task.run with
  | .ok machine => return ⟨0, machine.journal⟩
  | .error setback => return setback.report

/-- The exit code for arguments that are not understood. -/
def usageExitCode : UInt8 := 2

/-- A session from its arguments, or what to tell the user instead. -/
def runArguments (arguments : List String) (environment : Option String) :
    m (Except UsageProblem Report) := do
  match Request.read arguments with
  | .error problem => return .error problem
  | .ok .help =>
    (Host.print usage : m Unit)
    return .ok ⟨0, {}⟩
  | .ok (.run options) => return .ok (← runSession options (threshold options environment))

end Stages
end DotMatrix.Console
