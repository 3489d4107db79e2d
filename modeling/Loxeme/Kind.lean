/-!
# Kinds of token

A token is a symbol of one or two characters, a literal, a name, a keyword, or the end of the input. A keyword has the
spelling of a name and is told from one by the list of the sixteen reserved words.
-/

namespace Loxeme

/-- The reserved words. -/
inductive Keyword where
  | andWord | classWord | elseWord | falseWord | forWord | funWord | ifWord | nilWord
  | orWord | printWord | returnWord | superWord | thisWord | trueWord | varWord | whileWord
  deriving DecidableEq, Repr

namespace Keyword

/-- Every reserved word, in alphabetical order. -/
def all : List Keyword :=
  [andWord, classWord, elseWord, falseWord, forWord, funWord, ifWord, nilWord, orWord, printWord, returnWord, superWord,
   thisWord, trueWord, varWord, whileWord]

/-- The word as it stands in a source. -/
def spelling : Keyword → String
  | andWord => "and"
  | classWord => "class"
  | elseWord => "else"
  | falseWord => "false"
  | forWord => "for"
  | funWord => "fun"
  | ifWord => "if"
  | nilWord => "nil"
  | orWord => "or"
  | printWord => "print"
  | returnWord => "return"
  | superWord => "super"
  | thisWord => "this"
  | trueWord => "true"
  | varWord => "var"
  | whileWord => "while"

/-- The name by which a listing of tokens shows the word. -/
def name : Keyword → String
  | andWord => "And"
  | classWord => "Class"
  | elseWord => "Else"
  | falseWord => "False"
  | forWord => "For"
  | funWord => "Fun"
  | ifWord => "If"
  | nilWord => "Nil"
  | orWord => "Or"
  | printWord => "Print"
  | returnWord => "Return"
  | superWord => "Super"
  | thisWord => "This"
  | trueWord => "True"
  | varWord => "Var"
  | whileWord => "While"

/-- The reserved word with this spelling, if there is one. -/
def ofWord? (word : String) : Option Keyword := all.find? fun k => k.spelling == word

/-- The list of reserved words leaves none out. -/
theorem mem_all (k : Keyword) : k ∈ all := by cases k <;> decide

/-- A word is reserved exactly when it is the spelling of the keyword it is reserved for. -/
theorem ofWord?_eq_some_iff {word : String} {k : Keyword} : ofWord? word = some k ↔ k.spelling = word := by
  constructor
  · intro h
    have hk := List.find?_some h
    simpa using hk
  · rintro rfl
    cases k <;> decide

end Keyword

/-- The kinds of token. -/
inductive Kind where
  | leftParen | rightParen | leftBrace | rightBrace | comma | dot | minus | plus | semicolon | slash | star
  | bang | bangEqual | equal | equalEqual | greater | greaterEqual | less | lessEqual
  | identifier | string | number
  | keyword (word : Keyword)
  | endOfInput
  deriving DecidableEq, Repr

namespace Kind

/-- The name by which a listing of tokens shows the kind. -/
def name : Kind → String
  | leftParen => "LeftParen"
  | rightParen => "RightParen"
  | leftBrace => "LeftBrace"
  | rightBrace => "RightBrace"
  | comma => "Comma"
  | dot => "Dot"
  | minus => "Minus"
  | plus => "Plus"
  | semicolon => "Semicolon"
  | slash => "Slash"
  | star => "Star"
  | bang => "Bang"
  | bangEqual => "BangEqual"
  | equal => "Equal"
  | equalEqual => "EqualEqual"
  | greater => "Greater"
  | greaterEqual => "GreaterEqual"
  | less => "Less"
  | lessEqual => "LessEqual"
  | identifier => "Identifier"
  | string => "String"
  | number => "Number"
  | keyword word => word.name
  | endOfInput => "EOF"

/-- Every kind. -/
def all : List Kind :=
  [leftParen, rightParen, leftBrace, rightBrace, comma, dot, minus, plus, semicolon, slash, star, bang, bangEqual, equal,
   equalEqual, greater, greaterEqual, less, lessEqual, identifier, string, number]
    ++ Keyword.all.map keyword ++ [endOfInput]

/-- The kind with this name, if there is one. -/
def ofName? (name : String) : Option Kind := all.find? fun k => k.name == name

/-- Whether the kind is that of a reserved word. -/
def isKeyword : Kind → Bool
  | keyword _ => true
  | _ => false

/-- The kind of a word: its keyword when it is reserved, and a name otherwise. -/
def ofWord (word : String) : Kind :=
  match Keyword.ofWord? word with
  | some k => keyword k
  | none => identifier

/-- The kind of a symbol of one character. -/
def ofSymbol? (c : Char) : Option Kind :=
  match c with
  | '(' => some leftParen
  | ')' => some rightParen
  | '\x7b' => some leftBrace
  | '\x7d' => some rightBrace
  | ',' => some comma
  | '.' => some dot
  | '-' => some minus
  | '+' => some plus
  | ';' => some semicolon
  | '/' => some slash
  | '*' => some star
  | '!' => some bang
  | '=' => some equal
  | '>' => some greater
  | '<' => some less
  | _ => none

/-- The kind of the symbol that a character makes together with an equals sign behind it. -/
def ofSymbolEqual? (c : Char) : Option Kind :=
  match c with
  | '!' => some bangEqual
  | '=' => some equalEqual
  | '>' => some greaterEqual
  | '<' => some lessEqual
  | _ => none

/-- Reading a kind's name gives the kind, so no two kinds share a name. -/
theorem ofName?_name (k : Kind) : ofName? k.name = some k := by
  cases k with
  | keyword word => cases word <;> decide
  | _ => decide

/-- The kind of a word is a keyword exactly when the word is reserved. -/
theorem isKeyword_ofWord (word : String) : (ofWord word).isKeyword = (Keyword.ofWord? word).isSome := by
  unfold ofWord
  split <;> simp_all [isKeyword]

end Kind

end Loxeme
