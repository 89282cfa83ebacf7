import DotMatrix.Console.Viewing

/-! # Hosts

What a session needs of the world around it: files, somewhere to print, and time to pass. A session
is written for any host.
-/
namespace DotMatrix.Console

/-- Why a file cannot be read or written. -/
inductive FileProblem where
  | missing
  | notDirectory
  | isDirectory
  | nameTooLong
  /-- Another reason, in the words of the host. -/
  | other (reason : String)
  deriving DecidableEq

namespace FileProblem

/-- The words for a reason, and its number. -/
def message : FileProblem → String
  | missing => "No such file or directory (os error 2)"
  | notDirectory => "Not a directory (os error 20)"
  | isDirectory => "Is a directory (os error 21)"
  | nameTooLong => "File name too long (os error 36)"
  | other reason => reason

end FileProblem

/-- The world around a session. -/
class Host (m : Type → Type) where
  /-- The content of a file. -/
  readFile : String → m (Except FileProblem ByteArray)
  /-- Save a picture under a path. -/
  savePicture : String → Screen → m (Except FileProblem Unit)
  /-- Print text. -/
  print : String → m Unit
  /-- View a machine for a number of seconds. -/
  view : Pacing → Nat → Machine → m (Ending × Machine)

end DotMatrix.Console
