import Loxeme.Segment.Basic
import Loxeme.Text.Lines

/-!
# Places of segments

A position in a source is the number of bytes in front of it, as the source is written in UTF-8, and the line it stands on.
The segments of a source are placed one behind the other, each from where the one before it stops.
-/

namespace Loxeme

/-- The number of bytes that a text takes in UTF-8. -/
def byteLength : List Char → Nat
  | [] => 0
  | c :: t => c.utf8Size + byteLength t

/-- A position in a source. -/
structure Position where
  /-- The number of bytes in front of the position. -/
  offset : Nat := 0
  /-- The line of the position, counted from one. -/
  line : Nat := 1
  deriving DecidableEq, Repr

/-- The position behind a text that begins at a position. -/
def Position.advance (p : Position) (t : List Char) : Position := ⟨p.offset + byteLength t, p.line + newlines t⟩

/-- A segment and the positions in front of and behind it. -/
structure Placed where
  /-- The position of the first character. -/
  start : Position
  /-- The position behind the last character. -/
  stop : Position
  /-- The segment that lies between. -/
  segment : Segment
  deriving DecidableEq, Repr

/-- The segments, each placed from where the one before it stops. -/
def place (p : Position) : List Segment → List Placed
  | [] => []
  | s :: rest => ⟨p, p.advance s.text, s⟩ :: place (p.advance s.text) rest

/-- The position behind the last of the segments. -/
def finish (p : Position) : List Segment → Position
  | [] => p
  | s :: rest => finish (p.advance s.text) rest

@[simp] theorem byteLength_nil : byteLength [] = 0 := rfl

@[simp] theorem byteLength_cons (c : Char) (t : List Char) : byteLength (c :: t) = c.utf8Size + byteLength t := rfl

@[simp] theorem byteLength_append (s t : List Char) : byteLength (s ++ t) = byteLength s + byteLength t := by
  induction s with
  | nil => simp
  | cons c s ih => simp [ih, Nat.add_assoc]

/-- To advance over two texts is to advance over the first and then over the second. -/
theorem advance_append (p : Position) (s t : List Char) : p.advance (s ++ t) = (p.advance s).advance t := by
  simp [Position.advance, Nat.add_assoc]

/-- The segments finish where their texts put together do. -/
theorem finish_eq_advance (p : Position) (l : List Segment) : finish p l = p.advance (l.flatMap Segment.text) := by
  induction l generalizing p with
  | nil => rfl
  | cons s rest ih => rw [finish, ih, List.flatMap_cons, advance_append]

end Loxeme
