import DotMatrix.Journal
import DotMatrix.Text.Plain

/-! # The transcript

What notices look like where they are read. It is a file as often as a terminal, so they are plain
text.
-/
namespace DotMatrix.Console.Transcript

/-- Text in which every line but the first is moved in. -/
def hanging (text : String) : String := "\n    ".intercalate (text.splitOn "\n")

/-- A notice as it is written, with the end of its last line. -/
def entry (notice : Notice) : String := Text.plain (hanging notice.line ++ "\n")

/-- A line without the carriage return that may stand before its end. -/
def withoutReturn (line : List Char) : List Char :=
  if line.getLast? = some '\r' then line.dropLast else line

/-- The first line of a notice, which is the one that tells its level. -/
def headline (notice : Notice) : String :=
  let entry := (entry notice).toList
  let line := entry.takeWhile (· != '\n')
  String.ofList (if line.length < entry.length then withoutReturn line else line)

end DotMatrix.Console.Transcript
