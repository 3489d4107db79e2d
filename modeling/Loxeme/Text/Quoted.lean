import Loxeme.Text.Extending
import Loxeme.Text.Unprintable

/-!
# Quoted text

How a diagnostic shows a piece of source text: between two quotes, with a backslash in front of a backslash and of the
quote itself, a letter for NUL, tab, carriage return and line feed, and a hexadecimal code point in braces for every
character that could not be told by sight. Which characters those are is a parameter, so that what is true of quoting is
true whatever the tables of characters say.
-/

namespace Loxeme

/-- The letter that stands behind a backslash for a control character, a backslash or the quote itself. -/
def escapeLetter? (quote : Char) (c : Char) : Option Char :=
  if c = '\x00' then some '0'
  else if c = '\t' then some 't'
  else if c = '\r' then some 'r'
  else if c = '\n' then some 'n'
  else if c = '\\' ∨ c = quote then some c
  else none

/-- The written form of a character given by its code point: a backslash, `u`, and lower-case hexadecimal in braces. -/
def codePointEscape (c : Char) : List Char := ['\\', 'u', '\x7b'] ++ Nat.toDigits 16 c.toNat ++ ['\x7d']

/-- The written form of a character inside quotes. -/
def escape (quote : Char) (hidden : Char → Bool) (c : Char) : List Char :=
  match escapeLetter? quote c with
  | some l => ['\\', l]
  | none => if hidden c then codePointEscape c else [c]

/-- The written form of a text, quotes included. -/
def quoted (quote : Char) (hidden : Char → Bool) (t : List Char) : List Char :=
  quote :: t.flatMap (escape quote hidden) ++ [quote]

/-- The characters that are shown by their code point: those that extend the character before them and those without a
form of their own. -/
def isHidden (c : Char) : Bool := isExtending c || isUnprintable c

/-- A character between single quotes. -/
def quoteChar (c : Char) : String := String.ofList (quoted '\'' isHidden [c])

/-- A text between double quotes. -/
def quoteText (s : String) : String := String.ofList (quoted '"' isHidden s.toList)

example : quoted '"' isHidden ['a', '"', '\'', '\n'] = ['"', 'a', '\\', '"', '\'', '\\', 'n', '"'] := by decide +kernel

example : quoted '\'' isHidden ['\u200b'] = ['\'', '\\', 'u', '\x7b', '2', '0', '0', 'b', '\x7d', '\''] := by decide +kernel

end Loxeme
