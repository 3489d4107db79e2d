import Loxeme.Trace

/-!
# A scan with a cursor

How a scan goes through the bytes of a source. A cursor keeps two offsets, the first byte of the piece under way and the byte
behind what has been taken of it, and looks at the source only through slices between such offsets. A slice is there only
where both offsets are boundaries of characters and in order (`slice?_isSome_iff`), and a step that asks for any other slice
has no result. What is found goes to three places: a list of tokens, a sink, which is any state together with what becomes of it
when a diagnostic is reported, and a list of notes, of which only those are written that the level of detail asks for. Nothing
is said here of whether a scan has a result.
-/

namespace Loxeme

/-! ## Slices of a source -/

/-- An offset in bytes where a character of the source begins or the source ends. -/
def IsBoundary (source : String) (i : Nat) : Prop := String.Pos.Raw.IsValid source ⟨i⟩

instance (source : String) (i : Nat) : Decidable (IsBoundary source i) :=
  inferInstanceAs (Decidable (String.Pos.Raw.IsValid source ⟨i⟩))

/-- The text between two offsets of a source, which are boundaries and in order. -/
def slice? (source : String) (i j : Nat) : Option (List Char) :=
  if h : i ≤ j ∧ IsBoundary source i ∧ IsBoundary source j then
    some (source.extract (source.pos ⟨i⟩ h.2.1) (source.pos ⟨j⟩ h.2.2)).toList
  else none

/-! ## Patterns -/

/-- The number that a text begins with: digits and, where a digit follows it, a point and further digits. -/
def numberAt? (t : List Char) : Option (List Char) :=
  match t.takeWhile Char.isDigit with
  | [] => none
  | c :: whole => some (Decimal.pointed (c :: whole) (splitFraction (t.dropWhile Char.isDigit)).1)

/-- The word that a text begins with. -/
def wordAt? : List Char → Option (List Char)
  | [] => none
  | c :: t => if isWordStart c then some (c :: t.takeWhile isWordPart) else none

/-- The decimal that a text of digits and at most one point writes. -/
def Decimal.ofText? (t : List Char) : Option Decimal :=
  let whole := t.takeWhile Char.isDigit
  match t.dropWhile Char.isDigit with
  | [] => if whole.isEmpty then none else some (Decimal.ofDigits whole [])
  | c :: fraction =>
    if c = '.' && fraction.all Char.isDigit && !(whole.isEmpty && fraction.isEmpty) then
      some (Decimal.ofDigits whole fraction)
    else none

/-! ## Cursors -/

/-- A scan under way. -/
structure Cursor (σ : Type) where
  /-- The offset of the piece under way. -/
  start : Nat := 0
  /-- The offset behind what has been taken. -/
  current : Nat := 0
  /-- The line of that offset. -/
  line : Nat := 1
  /-- The tokens found so far. -/
  tokens : List Token := []
  /-- What has become of the sink. -/
  sink : σ
  /-- The level of detail that the scan is followed at. No note is as coarse as the one of a scan that no one follows. -/
  level : Level := .error
  /-- The notes written so far. -/
  notes : List Note := []

namespace Cursor

variable {σ : Type} (source : String) (report : σ → Diagnostic → σ)

/-- Whether the source has been taken whole. -/
def atEnd (s : Cursor σ) : Bool := source.utf8ByteSize ≤ s.current

/-- The source from an offset on. -/
def restFrom (i : Nat) : Option (List Char) := slice? source i source.utf8ByteSize

/-- The next character, if there is one. -/
def peek (s : Cursor σ) : Option (Option Char) := do
  let rest ← restFrom source s.current
  return rest.head?

/-- The character behind the next one, if there is one. -/
def peekNext (s : Cursor σ) : Option (Option Char) := do
  let rest ← restFrom source s.current
  return rest.tail.head?

/-- Takes the next character. -/
def advance (s : Cursor σ) : Option (Option Char × Cursor σ) := do
  match ← s.peek source with
  | some c => return (some c, { s with current := s.current + c.utf8Size })
  | none => return (none, s)

/-- Takes the next character if it is the given one. -/
def accept (c : Char) (s : Cursor σ) : Option (Bool × Cursor σ) := do
  if (← s.peek source) = some c then return (true, { s with current := s.current + c.utf8Size })
  else return (false, s)

/-- The text of the piece under way. -/
def lexeme (s : Cursor σ) : Option (List Char) := slice? source s.start s.current

/-- Writes a note that the level of detail asks for, and no other. -/
def note (n : Note) (s : Cursor σ) : Cursor σ :=
  if n.level.rank ≤ s.level.rank then { s with notes := s.notes ++ [n] } else s

/-- Notes down a token and adds it. -/
def add (t : Token) (s : Cursor σ) : Cursor σ :=
  let s := s.note (.token t)
  { s with tokens := s.tokens ++ [t] }

/-- Adds the piece under way as a token. -/
def emit (kind : Kind) (literal : Option Literal) (s : Cursor σ) : Option (Cursor σ) := do
  let text ← s.lexeme source
  return s.add ⟨kind, String.ofList text, literal, s.line⟩

/-- Notes down a diagnostic and reports it to the sink. -/
def handOver (d : Diagnostic) (s : Cursor σ) : Cursor σ :=
  let s := s.note (.fault d)
  { s with sink := report s.sink d }

/-- Reports a fault. -/
def fault (f : Fault) (s : Cursor σ) : Cursor σ := s.handOver report ⟨f, s.line⟩

/-- Counts a line if the next character is a line feed. -/
def countLine (s : Cursor σ) : Option (Cursor σ) := do
  if (← s.peek source) = some '\n' then return { s with line := s.line + 1 } else return s

/-- Repeats a round up to the end of the source or until the round does not go on, and says which of the two has come to pass.
A round that goes on without having taken anything would go on for ever, so then there is no result. -/
def loop (round : Cursor σ → Option (Bool × Cursor σ)) (s : Cursor σ) : Option (Bool × Cursor σ) :=
  if s.atEnd source then some (false, s)
  else
    match round s with
    | some (true, next) => if s.current < next.current then loop round next else none
    | some (false, last) => some (true, last)
    | none => none
termination_by source.utf8ByteSize - s.current
decreasing_by
  simp only [atEnd, decide_eq_true_eq] at *
  omega

/-- A round through a line, which ends in front of a line feed. -/
def lineRound (s : Cursor σ) : Option (Bool × Cursor σ) := do
  if (← s.peek source) = some '\n' then return (false, s)
  let (_, s) ← s.advance source
  return (true, s)

/-- Takes what is left of a line. -/
def skipLine (s : Cursor σ) : Option (Cursor σ) := do
  let (_, s) ← s.loop source (lineRound source)
  return s

/-- Whether an asterisk and a slash are next. -/
def atClose (s : Cursor σ) : Option Bool := do
  if (← s.peek source) = some '*' then return (← s.peekNext source) = some '/' else return false

/-- A round through a comment, which ends behind an asterisk and a slash. -/
def commentRound (s : Cursor σ) : Option (Bool × Cursor σ) := do
  if ← s.atClose source then
    let (_, s) ← s.advance source
    let (_, s) ← s.advance source
    return (false, s)
  let s ← s.countLine source
  let (_, s) ← s.advance source
  return (true, s)

/-- Takes what is left of a comment, up to its end, or reports that it has none. -/
def skipComment (s : Cursor σ) : Option (Cursor σ) := do
  let (closed, s) ← s.loop source (commentRound source)
  return if closed then s else s.fault report .unterminatedComment

/-- A round through a text in quotes, which ends in front of a quote. -/
def textRound (s : Cursor σ) : Option (Bool × Cursor σ) := do
  if (← s.peek source) = some '"' then return (false, s)
  let s ← s.countLine source
  let (_, s) ← s.advance source
  return (true, s)

/-- Takes what is left of a text in quotes, up to the quote. -/
def skipText (s : Cursor σ) : Option (Cursor σ) := do
  let (_, s) ← s.loop source (textRound source)
  return s

/-- Takes a text in quotes of which the first is taken, and adds it or reports that it has no end. -/
def readText (s : Cursor σ) : Option (Cursor σ) := do
  let s ← s.skipText source
  if s.atEnd source then return s.fault report .unterminatedString
  let (_, s) ← s.advance source
  let value ← slice? source (s.start + 1) (s.current - 1)
  s.emit source .string (some (.text (String.ofList value)))

/-- Goes behind the piece that a pattern finds where the piece under way begins, and stays where it finds none. -/
def goBehind (pattern : List Char → Option (List Char)) (s : Cursor σ) : Option (Cursor σ) := do
  let rest ← restFrom source s.start
  match pattern rest with
  | some text => return { s with current := s.start + byteLength text }
  | none => return s

/-- Takes a number of which the first digit is taken. -/
def readNumber (s : Cursor σ) : Option (Cursor σ) := do
  let s ← s.goBehind source numberAt?
  let text ← s.lexeme source
  match Decimal.ofText? text with
  | some d => s.emit source .number (some (.number d.toBinary64))
  | none => return s.fault report (.invalidNumber (String.ofList text))

/-- Takes a word of which the first letter is taken. -/
def readWord (s : Cursor σ) : Option (Cursor σ) := do
  let s ← s.goBehind source wordAt?
  let text ← s.lexeme source
  s.emit source (.ofWord (String.ofList text)) none

/-- Adds a symbol, of one kind where an equals sign is next and of another where it is not. -/
def emitEither (withEqual alone : Kind) (s : Cursor σ) : Option (Cursor σ) := do
  let (found, s) ← s.accept source '='
  s.emit source (if found then withEqual else alone) none

/-- Takes what a slash begins. -/
def readSlash (s : Cursor σ) : Option (Cursor σ) := do
  let (line, s) ← s.accept source '/'
  if line then s.skipLine source
  else
    let (block, s) ← s.accept source '*'
    if block then s.skipComment source report else s.emit source .slash none

/-- Takes what begins with a character that is taken. -/
def read (c : Char) (s : Cursor σ) : Option (Cursor σ) :=
  match c with
  | '(' => s.emit source .leftParen none
  | ')' => s.emit source .rightParen none
  | '\x7b' => s.emit source .leftBrace none
  | '\x7d' => s.emit source .rightBrace none
  | ',' => s.emit source .comma none
  | '.' => s.emit source .dot none
  | '-' => s.emit source .minus none
  | '+' => s.emit source .plus none
  | ';' => s.emit source .semicolon none
  | '*' => s.emit source .star none
  | '!' => s.emitEither source .bangEqual .bang
  | '=' => s.emitEither source .equalEqual .equal
  | '<' => s.emitEither source .lessEqual .less
  | '>' => s.emitEither source .greaterEqual .greater
  | '/' => s.readSlash source report
  | ' ' | '\r' | '\t' => some s
  | '\n' => some { s with line := s.line + 1 }
  | '"' => s.readText source report
  | c =>
    if c.isDigit then s.readNumber source report
    else if isWordStart c then s.readWord source
    else some (s.fault report (.unexpectedCharacter c))

/-- Takes the next piece, if there is one. -/
def readNext (s : Cursor σ) : Option (Cursor σ) := do
  let (c?, s) ← s.advance source
  match c? with
  | some c => s.read source report c
  | none => return s

/-- Begins a piece behind what has been taken. -/
def begun (s : Cursor σ) : Cursor σ := { s with start := s.current }

/-- Begins a piece and takes it. -/
def step (s : Cursor σ) : Option (Cursor σ) := s.begun.readNext source report

/-- Adds the token for the end of the input, which is not noted down. -/
def ended (s : Cursor σ) : Cursor σ := { s with tokens := s.tokens ++ [.endOfInput s.line] }

/-- A round through the source. -/
def stepRound (s : Cursor σ) : Option (Bool × Cursor σ) := do
  let s ← s.step source report
  return (true, s)

/-- Takes pieces up to the end of the source and adds the token for the end of the input. -/
def run (s : Cursor σ) : Option (Cursor σ) := do
  let (_, s) ← s.loop source (stepRound source report)
  return s.ended

/-- A run as a whole task, which also notes down that it begins and that it ends. -/
def task (s : Cursor σ) : Option (Cursor σ) := do
  let s ← ((s.note (.opened source.utf8ByteSize)).note .entered).run source report
  return (s.note (.completed s.tokens.length)).note .exited

end Cursor

/-- A whole scan into a sink, not followed by anyone: the tokens and what becomes of the sink. -/
def scanInto {σ : Type} (report : σ → Diagnostic → σ) (source : String) (sink : σ) : Option (List Token × σ) := do
  let s ← Cursor.run source report { sink := sink }
  return (s.tokens, s.sink)

end Loxeme
