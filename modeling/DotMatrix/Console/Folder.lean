import DotMatrix.Console.Host

/-! # A folder in memory

A host whose world is one folder with empty ones around it, and in which time passes by the
millisecond. Paths are understood as a file system does: dots and empty parts stay where they are, and
a file is not a folder.
-/
namespace DotMatrix.Console

/-- The content of a folder, and what was printed. -/
structure Folder where
  files : List (String × ByteArray) := []
  /-- The pictures that were saved, the last one first. -/
  pictures : List (String × Screen) := []
  printed : String := ""
  /-- What the clock shows in the beginning, in seconds. -/
  now : Nat := 86400

namespace Folder

/-- Where a path leads. -/
inductive Place where
  /-- To the folder itself, or to one around it. -/
  | folder
  /-- To a file; the flag says that the path asks for a folder there. -/
  | file (name : String) (wantsFolder : Bool)
  /-- To a name that is free; the flag says the same. -/
  | free (name : String) (wantsFolder : Bool)
  deriving DecidableEq

/-- Whether there is a file with a name. -/
def has (folder : Folder) (name : String) : Bool :=
  folder.files.any (·.1 == name) || folder.pictures.any (·.1 == name)

/-- A part of a path that stays where it is. -/
def stays (part : String) : Bool := part == "" || part == "."

/-- Whether a name is too long for any file. -/
def isTooLong (name : String) : Bool := 255 < name.utf8ByteSize

/-- Follow the parts of a path outside the folder. Every name is free there; it is kept apart from the
names of the folder by a slash, which none of those holds. -/
def followOutside : List String → Except FileProblem Place
  | [] => .ok .folder
  | part :: rest =>
    if stays part || part = ".." then followOutside rest
    else if isTooLong part then .error .nameTooLong
    else if rest.all (· == "") then .ok (.free ("/" ++ part) (!rest.isEmpty))
    else .error .missing

/-- Follow the parts of a path. A path that ends in empty parts asks for a folder. -/
def follow (folder : Folder) : List String → Except FileProblem Place
  | [] => .ok .folder
  | part :: rest =>
    if stays part then follow folder rest
    else if part = ".." then followOutside rest
    else if isTooLong part then .error .nameTooLong
    else if rest.all (· == "") then
      .ok (if folder.has part then .file part (!rest.isEmpty) else .free part (!rest.isEmpty))
    else .error (if folder.has part then .notDirectory else .missing)

/-- Where a path leads. -/
def locate (folder : Folder) (path : String) : Except FileProblem Place :=
  if 4096 ≤ path.utf8ByteSize then .error .nameTooLong
  else
    let parts := path.splitOn "/"
    if path.startsWith "/" then followOutside parts else folder.follow parts

/-- The content of a file. -/
def read (folder : Folder) (path : String) : Except FileProblem ByteArray :=
  match folder.locate path with
  | .error problem => .error problem
  | .ok .folder => .error .isDirectory
  | .ok (.free ..) => .error .missing
  | .ok (.file _ true) => .error .notDirectory
  | .ok (.file name false) => .ok ((folder.files.lookup name).getD .empty)

/-- Save a picture under a path. -/
def save (folder : Folder) (path : String) (screen : Screen) : Except FileProblem Folder :=
  let put (name : String) : Folder :=
    { folder with
      files := folder.files.filter (·.1 != name)
      pictures := (name, screen) :: folder.pictures }
  match folder.locate path with
  | .error problem => .error problem
  | .ok .folder | .ok (.file _ true) | .ok (.free _ true) => .error .isDirectory
  | .ok (.file name false) | .ok (.free name false) => .ok (put name)

/-- The picture saved under a name. -/
def picture? (folder : Folder) (name : String) : Option Screen := folder.pictures.lookup name

/-- The time between two turns, in nanoseconds. -/
def turnDistance : Nat := 1000000

/-- The turns in a number of seconds. The first one is not prevented by time that is over at once. -/
def turnsIn (seconds : Nat) : Nat := max 1 (seconds * 1000)

instance : Host (StateM Folder) where
  readFile path := do return (← get).read path
  savePicture path screen := do
    match (← get).save path screen with
    | .ok folder =>
      set folder
      return .ok ()
    | .error problem => return .error problem
  print text := modify fun folder => { folder with printed := folder.printed ++ text }
  view pacing seconds machine := do
    let deadline := Ending.deadline? (← get).now seconds
    let (fault, viewing) :=
      (Viewing.start pacing machine).turns pacing turnDistance (turnsIn seconds) 0
    return (.of deadline fault, viewing.close fault)

end Folder
end DotMatrix.Console
