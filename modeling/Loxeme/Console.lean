import Loxeme.Scan
import Loxeme.Text.Blank

/-!
# A console for diagnostics

A console shows diagnostics as text, each with the line of the source that it is about if the console was given the source
and the source has that line. It remembers whether it has shown any since it was last reset.
-/

namespace Loxeme

/-- A console. -/
structure Console where
  /-- The source that excerpts are taken from. -/
  source : Option String := none
  /-- Whether a diagnostic has been shown since the last reset. -/
  hadError : Bool := false
  deriving DecidableEq, Repr

/-- The first row of a diagnostic: its line, its message and, in parentheses, its tip. -/
def Diagnostic.header (d : Diagnostic) : String :=
  "[line " ++ toString d.line ++ "] Error: " ++ d.fault.message ++
    match d.fault.tip? with
    | some tip => " (" ++ tip ++ ")"
    | none => ""

/-- The two rows below the first: a bar, and the number and the text of the line on the two sides of a second bar, which
stands below the first. -/
def excerpt (line : Nat) (text : String) : String :=
  let number := toString line
  "\n" ++ String.ofList (List.replicate (number.length + 1) ' ') ++ "|\n" ++
    number ++ " | " ++ String.ofList (trim text.toList)

namespace Console

/-- The text of the line that a diagnostic is about, if the console knows it. -/
def lineOf? (c : Console) (d : Diagnostic) : Option String := c.source.bind (lineAt? · d.line)

/-- A diagnostic as the console shows it. -/
def render (c : Console) (d : Diagnostic) : String :=
  match c.lineOf? d with
  | some text => d.header ++ excerpt d.line text
  | none => d.header

/-- What the console writes to show diagnostics. -/
def written (c : Console) (ds : List Diagnostic) : String := String.join (ds.map fun d => c.render d ++ "\n")

/-- What a console can be asked to do. -/
inductive Command where
  | scan (source : String)
  | report (diagnostic : Diagnostic)
  | render (diagnostic : Diagnostic)
  | reset
  deriving DecidableEq, Repr

/-- What a console answers. -/
inductive Reply where
  | nothing
  | tokens (tokens : List Token)
  | text (text : String)
  deriving DecidableEq, Repr

/-- The answer to a command, what was written for it, and whether a diagnostic has been shown since the last reset. -/
structure Outcome where
  /-- The answer. -/
  reply : Reply
  /-- The text that was written. -/
  written : String
  /-- Whether a diagnostic has been shown since the last reset. -/
  hadError : Bool
  deriving DecidableEq, Repr

/-- The diagnostics that a command makes a console show. -/
def Command.diagnostics : Command → List Diagnostic
  | scan source => Loxeme.diagnostics source
  | report d => [d]
  | render _ => []
  | reset => []

/-- The console after it has shown diagnostics. -/
def shown (c : Console) (ds : List Diagnostic) : Console := { c with hadError := c.hadError || !ds.isEmpty }

/-- The console after a command. -/
def after (c : Console) : Command → Console
  | .reset => { c with hadError := false }
  | command => c.shown command.diagnostics

/-- The answer to a command. -/
def reply (c : Console) : Command → Reply
  | .scan source => .tokens (Loxeme.tokens source)
  | .report _ => .nothing
  | .render d => .text (c.render d)
  | .reset => .nothing

/-- No command changes the source that a console was given. -/
@[simp] theorem source_after (c : Console) (command : Command) : (c.after command).source = c.source := by
  cases command <;> rfl

/-- What a console shows a diagnostic as does not depend on the commands before. -/
@[simp] theorem render_after (c : Console) (command : Command) (d : Diagnostic) :
    (c.after command).render d = c.render d := by
  simp only [render, lineOf?, source_after]

@[simp] theorem written_after (c : Console) (command : Command) (ds : List Diagnostic) :
    (c.after command).written ds = c.written ds := by
  simp only [written, render_after]

/-- Diagnostics shown together are written one behind the other. -/
theorem written_append (c : Console) (ds es : List Diagnostic) :
    c.written (ds ++ es) = c.written ds ++ c.written es := by
  simp [written]

/-- What comes of a command. -/
def outcome (c : Console) (command : Command) : Outcome :=
  ⟨c.reply command, c.written command.diagnostics, (c.after command).hadError⟩

/-- What comes of commands given one after the other. -/
def run (c : Console) : List Command → List Outcome
  | [] => []
  | command :: rest => c.outcome command :: (c.after command).run rest

example : (Console.mk (some "a\n  #\n") false).render ⟨.unexpectedCharacter '#', 2⟩
    = "[line 2] Error: Unexpected character '#'.\n  |\n2 | #" := by
  decide +kernel

end Console

end Loxeme
