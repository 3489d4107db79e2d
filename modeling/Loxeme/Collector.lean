import Loxeme.Scan

/-!
# Collecting diagnostics

A collector keeps every diagnostic it is given, in the order in which they come, and shows none.
-/

namespace Loxeme

/-- A collector. -/
structure Collector where
  /-- What has been collected, the oldest first. -/
  diagnostics : List Diagnostic := []
  deriving DecidableEq, Repr

namespace Collector

/-- Whether anything has been collected. -/
def hadError (c : Collector) : Bool := !c.diagnostics.isEmpty

/-- What a collector can be asked to do. -/
inductive Command where
  | scan (source : String)
  | report (diagnostic : Diagnostic)
  deriving DecidableEq, Repr

/-- The diagnostics that a command gives to a collector. -/
def Command.diagnostics : Command → List Diagnostic
  | scan source => Loxeme.diagnostics source
  | report d => [d]

/-- The tokens that a command answers with, if it answers. -/
def Command.tokens? : Command → Option (List Token)
  | scan source => some (Loxeme.tokens source)
  | report _ => none

/-- The collector after a command. -/
def after (c : Collector) (command : Command) : Collector := ⟨c.diagnostics ++ command.diagnostics⟩

/-- The collector after each of the commands given one after the other. -/
def run (c : Collector) : List Command → List Collector
  | [] => []
  | command :: rest => c.after command :: (c.after command).run rest

/-- The collector after all of the commands. -/
def afterAll (c : Collector) (commands : List Command) : Collector := commands.foldl after c

/-- After all of the commands a collector holds what it held before and what each of them gave, in their order. -/
theorem diagnostics_afterAll (c : Collector) (commands : List Command) :
    (c.afterAll commands).diagnostics = c.diagnostics ++ commands.flatMap Command.diagnostics := by
  induction commands generalizing c with
  | nil => simp [afterAll]
  | cons command rest ih =>
    have h := ih (c.after command)
    simp only [afterAll, List.foldl_cons] at h ⊢
    rw [h, after, List.flatMap_cons, List.append_assoc]

end Collector

end Loxeme
