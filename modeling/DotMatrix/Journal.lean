/-! # The journal

Lines that tell a reader what happened, each at a level. A journal keeps those at least as severe as
its threshold, in the order in which they were written, and drops the others without looking at
their text.
-/
namespace DotMatrix

/-- How much a line matters, the most severe first. -/
inductive Level where
  | error
  | warn
  | info
  | debug
  | trace
  deriving DecidableEq, Inhabited

namespace Level

/-- Position in the order of severity; zero is the most severe. -/
def rank : Level → Nat
  | error => 0
  | warn => 1
  | info => 2
  | debug => 3
  | trace => 4

/-- The word a line starts with. -/
def name : Level → String
  | error => "ERROR"
  | warn => "WARN"
  | info => "INFO"
  | debug => "DEBUG"
  | trace => "TRACE"

end Level

/-- One line and its level. -/
structure Notice where
  level : Level
  text : String
  deriving DecidableEq

namespace Notice

/-- The line as it is shown. -/
def line (notice : Notice) : String := notice.level.name ++ " " ++ notice.text

end Notice

/-- The lines kept so far; without a threshold none is kept. -/
structure Journal where
  threshold : Option Level := none
  notices : Array Notice := #[]

namespace Journal

/-- Whether lines of this level are kept. -/
def admits (journal : Journal) (level : Level) : Bool :=
  match journal.threshold with
  | none => false
  | some threshold => level.rank ≤ threshold.rank

/-- Write a line; its text is asked for only if the line is kept. -/
@[inline]
def write (journal : Journal) (level : Level) (text : Unit → String) : Journal :=
  if journal.admits level then
    { journal with notices := journal.notices.push ⟨level, text ()⟩ }
  else journal

/-- Write lines in order. -/
def writeAll (journal : Journal) (notices : List Notice) : Journal :=
  notices.foldl (fun journal notice => journal.write notice.level fun _ => notice.text) journal

end Journal
end DotMatrix
