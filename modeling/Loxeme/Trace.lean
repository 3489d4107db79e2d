import Loxeme.Scan

/-!
# The trace of a scan

A scan can be followed by what it notes down: each token and each fault, at two levels of detail. A scan as a whole task
also notes its beginning, with the size of the source, and its end, with the number of tokens. A reader who asks for less
detail gets the same notes without the finer ones.
-/

namespace Loxeme

/-- The levels of detail of a note, the coarsest first. -/
inductive Level where
  | error | warn | info | debug | trace
  deriving DecidableEq, Repr

namespace Level

/-- The number of levels that are coarser. -/
def rank : Level → Nat
  | error => 0
  | warn => 1
  | info => 2
  | debug => 3
  | trace => 4

/-- The name of the level. -/
def name : Level → String
  | error => "ERROR"
  | warn => "WARN"
  | info => "INFO"
  | debug => "DEBUG"
  | trace => "TRACE"

/-- Every level. -/
def all : List Level := [error, warn, info, debug, trace]

/-- The level with this name, if there is one. -/
def ofName? (name : String) : Option Level := all.find? fun l => l.name == name

end Level

/-- A note of a scan. -/
inductive Note where
  | opened (bytes : Nat)
  | entered
  | token (token : Token)
  | fault (diagnostic : Diagnostic)
  | completed (count : Nat)
  | exited
  deriving DecidableEq, Repr

namespace Note

/-- The level of detail of a note. -/
def level : Note → Level
  | token _ => .trace
  | _ => .debug

/-- The note of what a scan tells of. -/
def ofEvent : Event → Note
  | .token t => token t
  | .fault d => fault d

end Note

/-- Every note of the scanning itself. -/
def scanNotes (source : String) : List Note := (events source).map Note.ofEvent

/-- Every note of a scan as a whole task. -/
def taskNotes (source : String) : List Note :=
  [.opened (byteLength source.toList), .entered] ++ scanNotes source ++ [.completed (tokens source).length, .exited]

/-- The notes that a reader of a level gets: those of that level and the coarser ones. -/
def notesUpTo (level : Level) (notes : List Note) : List Note := notes.filter fun n => n.level.rank ≤ level.rank

theorem notesUpTo_append (level : Level) (m n : List Note) :
    notesUpTo level (m ++ n) = notesUpTo level m ++ notesUpTo level n :=
  List.filter_append _ _

/-- A reader of the finest level gets every note. -/
theorem notesUpTo_trace (notes : List Note) : notesUpTo .trace notes = notes := by
  refine List.filter_eq_self.2 ?_
  intro n _
  cases n <;> rfl

end Loxeme
