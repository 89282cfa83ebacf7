import DotMatrix.Decimal.Numeral
import DotMatrix.Machine.Batch

/-! # The command line

Arguments are read from left to right. An argument is the image's path, or the name of an option with
two dashes before it, which may be followed by a value: the next argument, or the text after an equals
sign. After two dashes alone every argument is a path. The first argument that does not fit decides
what is reported; asking for help ends the reading.
-/
namespace DotMatrix.Console

/-! ## Options -/

/-- The options by name. -/
inductive OptionName where
  | bootrom
  | frames
  | cycles
  | seconds
  | speed
  | serial
  | screenshot
  | debug
  | help
  deriving DecidableEq

namespace OptionName

/-- All options. -/
def all : List OptionName :=
  [bootrom, frames, cycles, seconds, speed, serial, screenshot, debug, help]

/-- The name without its dashes. -/
def text : OptionName → String
  | bootrom => "bootrom"
  | frames => "frames"
  | cycles => "cycles"
  | seconds => "seconds"
  | speed => "speed"
  | serial => "serial"
  | screenshot => "screenshot"
  | debug => "debug"
  | help => "help"

/-- The option with a name. -/
def ofText? (name : String) : Option OptionName := all.find? fun option => option.text == name

/-- Whether the option has a value. -/
def takesValue : OptionName → Bool
  | serial | debug | help => false
  | _ => true

end OptionName

/-- What to do. -/
structure Options where
  /-- The path of the image. -/
  image : String
  /-- The path of a boot program. -/
  bootrom : Option String := none
  frames : Option Nat := none
  cycles : Option Nat := none
  /-- How long to run at the pace of the world. -/
  seconds : Option Nat := none
  speed : Float := 1
  /-- Whether to print what was sent over the serial port. -/
  serial : Bool := false
  /-- Where to save the last picture. -/
  screenshot : Option String := none
  /-- Whether to write more lines. -/
  debug : Bool := false

namespace Options

/-- The frames of a batch for which no limit was given. -/
def defaultFrames : Nat := 60

/-- When a batch is over. -/
def limit (options : Options) : BatchLimit :=
  match options.frames, options.cycles with
  | some frames, cycles => .frames frames cycles
  | none, some cycles => .cycles cycles
  | none, none => .frames defaultFrames none

end Options

/-! ## Mistakes -/

/-- Why arguments are not understood. -/
inductive UsageProblem where
  | unknown (argument : String)
  | missingValue (option : OptionName)
  | badValue (option : OptionName) (value : String)
  | needlessValue (option : OptionName)
  | repeated (option : OptionName)
  | conflict (first second : OptionName)
  | missingImage
  | badImage
  deriving DecidableEq

namespace UsageProblem

/-- What is told to the user. -/
def message : UsageProblem → String
  | unknown argument => "unexpected argument '" ++ argument ++ "'"
  | missingValue option => "--" ++ option.text ++ " needs a value"
  | badValue option value => "'" ++ value ++ "' is no value for --" ++ option.text
  | needlessValue option => "--" ++ option.text ++ " has no value"
  | repeated option => "--" ++ option.text ++ " is given twice"
  | conflict first second => "--" ++ first.text ++ " cannot be used with --" ++ second.text
  | missingImage => "the path of an image is missing"
  | badImage => "the path of an image cannot be empty"

end UsageProblem

/-! ## Values -/

/-- A number that fits into 64 bits; a plus sign may stand before it. -/
def readCount? (text : String) : Option Nat :=
  let digits := match text.toList with
    | '+' :: rest => rest
    | chars => chars
  (Decimal.readNat? digits).filter (· < Nat.pow 2 64)

/-- A path, which cannot be empty. -/
def readPath? (text : String) : Option String := if text.isEmpty then none else some text

/-! ## Reading arguments -/

/-- What has been read so far. -/
structure Draft where
  image : Option String := none
  bootrom : Option String := none
  frames : Option Nat := none
  cycles : Option Nat := none
  seconds : Option Nat := none
  speed : Option Float := none
  serial : Bool := false
  screenshot : Option String := none
  debug : Bool := false

namespace Draft

/-- A value given for the first time. -/
def single {α : Type} (option : OptionName) (text : String) (old value : Option α) :
    Except UsageProblem (Option α) :=
  match value, old with
  | none, _ => .error (.badValue option text)
  | some _, some _ => .error (.repeated option)
  | some value, none => .ok (some value)

/-- Give an option its value. -/
def assign (draft : Draft) (option : OptionName) (text : String) : Except UsageProblem Draft := do
  match option with
  | .bootrom => return { draft with bootrom := ← single option text draft.bootrom (readPath? text) }
  | .frames => return { draft with frames := ← single option text draft.frames (readCount? text) }
  | .cycles => return { draft with cycles := ← single option text draft.cycles (readCount? text) }
  | .seconds => return { draft with seconds := ← single option text draft.seconds (readCount? text) }
  | .speed =>
    return { draft with speed := ← single option text draft.speed (Decimal.readFloat? text.toList) }
  | .screenshot =>
    return { draft with screenshot := ← single option text draft.screenshot (readPath? text) }
  | .serial | .debug | .help => throw (.needlessValue option)

/-- Turn a switch on. -/
def switch (draft : Draft) (option : OptionName) : Except UsageProblem Draft :=
  match option with
  | .serial => if draft.serial then .error (.repeated option) else .ok { draft with serial := true }
  | .debug => if draft.debug then .error (.repeated option) else .ok { draft with debug := true }
  | _ => .error (.missingValue option)

/-- The one argument that is not an option. -/
def setImage (draft : Draft) (path : String) : Except UsageProblem Draft :=
  match draft.image with
  | some _ => .error (.unknown path)
  | none =>
    match readPath? path with
    | some path => .ok { draft with image := some path }
    | none => .error .badImage

/-- The options, once there is nothing left to read. -/
def finish (draft : Draft) : Except UsageProblem Options :=
  match draft.image with
  | none => .error .missingImage
  | some image =>
    if draft.frames.isSome && draft.seconds.isSome then .error (.conflict .frames .seconds)
    else if draft.cycles.isSome && draft.seconds.isSome then .error (.conflict .cycles .seconds)
    else .ok {
      image := image
      bootrom := draft.bootrom
      frames := draft.frames
      cycles := draft.cycles
      seconds := draft.seconds
      speed := draft.speed.getD 1
      serial := draft.serial
      screenshot := draft.screenshot
      debug := draft.debug }

end Draft

/-- The form of an argument. -/
inductive Argument where
  /-- A path, or another argument without a dash; one dash alone is a path as well. -/
  | plain (text : String)
  /-- Two dashes alone. -/
  | terminator
  /-- A name after two dashes, and the text after an equals sign. -/
  | long (name : String) (value : Option String)
  /-- Letters after one dash. -/
  | short (letters : List Char)
  deriving DecidableEq

namespace Argument

/-- The form of a text. -/
def ofText (text : String) : Argument :=
  match text.toList with
  | ['-', '-'] => terminator
  | '-' :: '-' :: rest =>
    let name := rest.takeWhile (· != '=')
    match rest.drop name.length with
    | [] => long (String.ofList name) none
    | _ :: value => long (String.ofList name) (some (String.ofList value))
  | ['-'] => plain text
  | '-' :: letters => short letters
  | _ => plain text

/-- Whether the text can be the value of the option before it. -/
def isPlain : Argument → Bool
  | plain _ => true
  | _ => false

end Argument

/-- What the user asks for. -/
inductive Request where
  | help
  | run (options : Options)

/-- Arguments after two dashes alone. -/
def readPaths (draft : Draft) : List String → Except UsageProblem Draft
  | [] => .ok draft
  | path :: rest =>
    match draft.setImage path with
    | .ok draft => readPaths draft rest
    | .error problem => .error problem

/-- Read arguments one after the other. -/
def readArguments (draft : Draft) : List String → Except UsageProblem Request
  | [] => draft.finish.map .run
  | text :: rest =>
    match Argument.ofText text with
    | .terminator => do return .run (← (← readPaths draft rest).finish)
    | .plain path => do readArguments (← draft.setImage path) rest
    | .short letters => if letters.head? = some 'h' then .ok .help else .error (.unknown text)
    | .long name value =>
      match OptionName.ofText? name, value with
      | none, _ => .error (.unknown text)
      | some option, some value =>
        if option.takesValue then do readArguments (← draft.assign option value) rest
        else .error (.needlessValue option)
      | some .help, none => .ok .help
      | some option, none =>
        if option.takesValue then
          match rest with
          | [] => .error (.missingValue option)
          | value :: rest =>
            if (Argument.ofText value).isPlain then do
              readArguments (← draft.assign option value) rest
            else .error (.missingValue option)
        else do readArguments (← draft.switch option) rest

/-- What the arguments ask for. -/
def Request.read (arguments : List String) : Except UsageProblem Request :=
  readArguments {} arguments

/-- How the program is used. -/
def usage : String :=
  "Run a Game Boy ROM without a window.\n\n" ++
  "Usage: dotmatrix [OPTIONS] <ROM>\n\n" ++
  "Options:\n" ++
  "      --bootrom <BOOTROM>        Path to boot ROM file\n" ++
  "      --frames <FRAMES>          Number of frames to run\n" ++
  "      --cycles <CYCLES>          Number of CPU cycles to run\n" ++
  "      --seconds <SECONDS>        Run in real time for this many seconds\n" ++
  "      --speed <SPEED>            Emulation speed for --seconds; 0 runs as fast as possible\n" ++
  "      --serial                   Print serial output when done\n" ++
  "      --screenshot <SCREENSHOT>  Save the last frame as a PNG\n" ++
  "      --debug                    Enable debug logging of CPU state and serial output\n" ++
  "  -h, --help                     Print help\n"

/-! ## How much is written down -/

/-- The level that a word names, in any case and with blanks around it; the outer `none` is no such
word, the inner one nothing at all. -/
def levelNamed? (word : String) : Option (Option Level) :=
  match String.ofList ((Text.trim word.toList).map Char.toLower) with
  | "off" => some none
  | "error" => some (some .error)
  | "warn" => some (some .warn)
  | "info" => some (some .info)
  | "debug" => some (some .debug)
  | "trace" => some (some .trace)
  | _ => none

/-- The level down to which lines are written: the one that the environment names, if it names one,
and else the usual one, or one more with the option for it. -/
def threshold (options : Options) (environment : Option String) : Option Level :=
  match environment.bind levelNamed? with
  | some level => level
  | none => some (if options.debug then .debug else .info)

end DotMatrix.Console
