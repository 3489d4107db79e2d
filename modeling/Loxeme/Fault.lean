import Loxeme.Text.Alphabetic
import Loxeme.Text.Quoted

/-!
# Faults of a source

What can be wrong with a source at this level: a character that begins no token, a text or a comment without its end, and
digits that are no number. A fault has a message and, where there is something to be done about it, a tip. A diagnostic is
a fault together with the line it was found on.
-/

namespace Loxeme

/-- What is wrong with a piece of a source. -/
inductive Fault where
  | unexpectedCharacter (c : Char)
  | unterminatedString
  | unterminatedComment
  | invalidNumber (lexeme : String)
  deriving DecidableEq, Repr

namespace Fault

/-- The name of the kind of fault. -/
def name : Fault → String
  | unexpectedCharacter _ => "UnexpectedCharacter"
  | unterminatedString => "UnterminatedString"
  | unterminatedComment => "UnterminatedBlockComment"
  | invalidNumber _ => "InvalidNumberLiteral"

/-- What the fault is about: the character or the digits. -/
def payload? : Fault → Option String
  | unexpectedCharacter c => some (String.singleton c)
  | invalidNumber lexeme => some lexeme
  | _ => none

/-- What is wrong, in words. -/
def message : Fault → String
  | unexpectedCharacter c => "Unexpected character " ++ quoteChar c ++ "."
  | unterminatedString => "Unterminated string."
  | unterminatedComment => "Unterminated block comment."
  | invalidNumber lexeme => "Invalid number literal " ++ quoteText lexeme ++ "."

/-- What to do about it, in words. Of the characters that begin no token only a letter has a tip. -/
def tip? : Fault → Option String
  | unexpectedCharacter c =>
    if isAlphabetic c then
      some ("`" ++ String.singleton c ++ "` is not an ASCII letter, identifiers may only use `a-z`, `A-Z`, `0-9` and `_`")
    else none
  | unterminatedString => some "Add a closing `\"` to end the string"
  | unterminatedComment => some "Add a closing `*/` to end the comment"
  | invalidNumber lexeme => some ("`" ++ lexeme ++ "` could not be read as a number")

end Fault

/-- A fault and where it is. -/
structure Diagnostic where
  /-- What is wrong. -/
  fault : Fault
  /-- The line that the fault was found on. -/
  line : Nat
  deriving DecidableEq, Repr

end Loxeme
