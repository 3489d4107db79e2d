import Loxeme.Binary64.Shortest
import Loxeme.Kind

/-!
# Tokens

A token has a kind, the text it was cut from, the value of that text if it is a literal, and the line it ends on. Two
tokens are compared by the values of their number literals, so a token with a literal that is no number differs from
itself, and zero equals negative zero.
-/

namespace Loxeme

/-- The value of a literal. -/
inductive Literal where
  | number (value : Binary64)
  | text (value : String)
  deriving DecidableEq, Repr

namespace Literal

/-- The value as text: a number in positions, a text as it is. -/
def display : Literal → String
  | number x => x.display
  | text s => s

/-- Equality of values. -/
def equals : Literal → Literal → Bool
  | number x, number y => x.equals y
  | text s, text t => s == t
  | _, _ => false

end Literal

/-- A token of a source. -/
structure Token where
  /-- What the token is. -/
  kind : Kind
  /-- The text the token was cut from. -/
  lexeme : String
  /-- The value of the token, if it is a literal. -/
  literal : Option Literal
  /-- The line that the last character of the token stands on. -/
  line : Nat
  deriving DecidableEq, Repr

namespace Token

/-- The token behind the last one of a source. -/
def endOfInput (line : Nat) : Token := ⟨.endOfInput, "", none, line⟩

@[simp] theorem line_endOfInput (line : Nat) : (endOfInput line).line = line := rfl

/-- A token that says nothing but that the input ends on its line. -/
structure IsEnd (t : Token) : Prop where
  /-- It is of the kind for the end of the input. -/
  kind_eq : t.kind = .endOfInput
  /-- It was cut from no text. -/
  lexeme_eq : t.lexeme = ""
  /-- It has no value. -/
  literal_eq : t.literal = none

theorem isEnd_endOfInput (line : Nat) : (endOfInput line).IsEnd := ⟨rfl, rfl, rfl⟩

/-- The value of the token as text, `nil` when it has none. -/
def literalText (t : Token) : String :=
  match t.literal with
  | some l => l.display
  | none => "nil"

/-- The token as a listing shows it: kind, text and value. -/
def display (t : Token) : String := t.kind.name ++ " " ++ t.lexeme ++ " " ++ t.literalText

/-- The number that the token stands for, if it is a number literal. -/
def number? (t : Token) : Option Binary64 :=
  match t.literal with
  | some (.number x) => some x
  | _ => none

/-- The text that the token stands for, if it is a text literal. -/
def text? (t : Token) : Option String :=
  match t.literal with
  | some (.text s) => some s
  | _ => none

/-- Whether the token's kind is among the given ones. -/
def isOneOf (t : Token) (kinds : List Kind) : Bool := kinds.contains t.kind

/-- Equality of tokens: equal in kind, text and line, and with equal values. -/
def equals (s t : Token) : Bool :=
  s.kind == t.kind && s.lexeme == t.lexeme && s.line == t.line &&
    match s.literal, t.literal with
    | some a, some b => a.equals b
    | none, none => true
    | _, _ => false

example : (Token.endOfInput 1).display = "EOF  nil" := by decide +kernel

end Token

end Loxeme
