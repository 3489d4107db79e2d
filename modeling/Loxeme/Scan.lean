import Loxeme.Segment.Place

/-!
# Scanning a source

A scan goes through the segments of a source and tells, in their order, of each token and each fault. A fault does not end
it: the scan goes on behind the segment. The tokens of a source end with one for the end of the input.
-/

namespace Loxeme

/-- What a scan tells of. -/
inductive Event where
  | token (token : Token)
  | fault (diagnostic : Diagnostic)
  deriving DecidableEq, Repr

namespace Event

/-- The token that the event tells of, if it is one. -/
def token? : Event → Option Token
  | token t => some t
  | fault _ => none

/-- The diagnostic that the event tells of, if it is one. -/
def diagnostic? : Event → Option Diagnostic
  | token _ => none
  | fault d => some d

end Event

/-- What a segment in its place gives. The line is that of the position behind it. -/
def Placed.event? (p : Placed) : Option Event :=
  match p.segment.yield with
  | .nothing => none
  | .token kind literal => some (.token ⟨kind, String.ofList p.segment.text, literal, p.stop.line⟩)
  | .fault f => some (.fault ⟨f, p.stop.line⟩)

/-- The segments of a source in their places. -/
def placedSegments (source : String) : List Placed := place {} (segments source.toList)

/-- Everything that a scan of a source tells of, in order. -/
def events (source : String) : List Event := (placedSegments source).filterMap Placed.event?

/-- The line that a source ends on. -/
def endLine (source : String) : Nat := (finish {} (segments source.toList)).line

/-- A source ends one line further down than it has line feeds. -/
theorem endLine_eq (source : String) : endLine source = 1 + newlines source.toList := by
  rw [endLine, finish_eq_advance, text_segments]
  rfl

/-- The tokens of a source, the end of the input last. -/
def tokens (source : String) : List Token :=
  (events source).filterMap Event.token? ++ [.endOfInput (endLine source)]

/-- The faults of a source with their lines. -/
def diagnostics (source : String) : List Diagnostic := (events source).filterMap Event.diagnostic?

example : (tokens "if a1 // c").map Token.display = ["If if nil", "Identifier a1 nil", "EOF  nil"] := by
  decide +kernel

example : diagnostics "#\n\"x" = [⟨.unexpectedCharacter '#', 1⟩, ⟨.unterminatedString, 2⟩] := by decide +kernel

end Loxeme
