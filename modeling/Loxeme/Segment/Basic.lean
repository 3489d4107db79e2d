import Loxeme.Binary64.Nearest
import Loxeme.Fault
import Loxeme.Token

/-!
# Segments of a source

A source is cut into segments from left to right, each one as long as what begins there: a comment, a text in quotes, a
number, a word, a symbol, or a single character that is blank or begins nothing. A segment yields a token, a fault or
nothing, and that depends on its text alone. The segments put together again are the source (`text_segments`).
-/

namespace Loxeme

/-- What a segment gives: blanks and comments give nothing. -/
inductive Yield where
  | nothing
  | token (kind : Kind) (literal : Option Literal)
  | fault (fault : Fault)
  deriving DecidableEq, Repr

/-- A piece of a source and what it gives. -/
structure Segment where
  /-- The characters of the piece. -/
  text : List Char
  /-- What the piece gives. -/
  yield : Yield
  deriving DecidableEq, Repr

/-- Whether a character separates tokens and means nothing itself. -/
def isBlank (c : Char) : Bool := c = ' ' || c = '\r' || c = '\t' || c = '\n'

/-- Whether a character begins a word: an ASCII letter or an underscore. -/
def isWordStart (c : Char) : Bool := c.isAlpha || c = '_'

/-- Whether a character continues a word: one that begins a word or a digit. -/
def isWordPart (c : Char) : Bool := isWordStart c || c.isDigit

/-- Splits a text behind the first `*/` in it, if it has one. -/
def splitClose : List Char → Option (List Char × List Char)
  | '*' :: '/' :: t => some (['*', '/'], t)
  | c :: t => (splitClose t).map fun (body, rest) => (c :: body, rest)
  | [] => none

/-- Splits the digits behind a point off a text that begins with both, and nothing off any other text. -/
def splitFraction : List Char → List Char × List Char
  | '.' :: d :: t =>
    if d.isDigit then (d :: t.takeWhile Char.isDigit, t.dropWhile Char.isDigit) else ([], '.' :: d :: t)
  | t => ([], t)

/-- What a number with these digits in front of and behind the point gives. -/
def Yield.ofDigits (whole fraction : List Char) : Yield :=
  .token .number (some (.number (Decimal.ofDigits whole fraction).toBinary64))

namespace Segment

/-- A comment that begins with two slashes, of which the first is taken: it ends before the line feed. -/
def cutLineComment (t : List Char) : Segment × List Char :=
  (⟨'/' :: t.takeWhile (· ≠ '\n'), .nothing⟩, t.dropWhile (· ≠ '\n'))

/-- A comment that begins with a slash and an asterisk, of which both are taken: it ends with the next asterisk and slash,
and takes in the whole source when there are none. -/
def cutBlockComment (t : List Char) : Segment × List Char :=
  match splitClose t with
  | some (body, rest) => (⟨'/' :: '*' :: body, .nothing⟩, rest)
  | none => (⟨'/' :: '*' :: t, .fault .unterminatedComment⟩, [])

/-- A text in quotes, of which the first is taken: it ends with the next quote, and takes in the whole source when there is
none. -/
def cutText (t : List Char) : Segment × List Char :=
  let body := t.takeWhile (· ≠ '"')
  match t.dropWhile (· ≠ '"') with
  | q :: rest => (⟨'"' :: (body ++ [q]), .token .string (some (.text (String.ofList body)))⟩, rest)
  | [] => (⟨'"' :: body, .fault .unterminatedString⟩, [])

/-- A number that begins with the digit `c`: digits and, where a digit follows it, a point and further digits. -/
def cutNumber (c : Char) (t : List Char) : Segment × List Char :=
  let whole := c :: t.takeWhile Char.isDigit
  let (fraction, rest) := splitFraction (t.dropWhile Char.isDigit)
  (⟨Decimal.pointed whole fraction, .ofDigits whole fraction⟩, rest)

/-- A word that begins with `c`. -/
def cutWord (c : Char) (t : List Char) : Segment × List Char :=
  let word := c :: t.takeWhile isWordPart
  (⟨word, .token (.ofWord (String.ofList word)) none⟩, t.dropWhile isWordPart)

/-- A symbol of one character, or the fault that the character begins nothing. -/
def ofChar (c : Char) : Segment :=
  match Kind.ofSymbol? c with
  | some kind => ⟨[c], .token kind none⟩
  | none => ⟨[c], .fault (.unexpectedCharacter c)⟩

/-- A symbol that begins with `c`, of two characters where the second is an equals sign and goes with `c`. -/
def cutSymbol (c : Char) (t : List Char) : Segment × List Char :=
  match Kind.ofSymbolEqual? c, t with
  | some kind, '=' :: rest => (⟨[c, '='], .token kind none⟩, rest)
  | _, _ => (ofChar c, t)

/-- What begins with a slash: a comment of either form, or the slash alone. -/
def cutSlash (t : List Char) : Segment × List Char :=
  match t with
  | '/' :: _ => cutLineComment t
  | '*' :: rest => cutBlockComment rest
  | _ => (ofChar '/', t)

/-- The segment that begins with `c` where `t` follows, and what remains behind it. -/
def cut (c : Char) (t : List Char) : Segment × List Char :=
  if isBlank c then (⟨[c], .nothing⟩, t)
  else if c = '"' then cutText t
  else if c.isDigit then cutNumber c t
  else if isWordStart c then cutWord c t
  else if c = '/' then cutSlash t
  else cutSymbol c t

end Segment

/-- A text split behind its first `*/` is the two parts put together. -/
theorem splitClose_append {t body rest : List Char} (h : splitClose t = some (body, rest)) : body ++ rest = t := by
  fun_induction splitClose t generalizing body rest with
  | case1 t =>
    obtain ⟨rfl, rfl⟩ : ['*', '/'] = body ∧ t = rest := by simpa using h
    rfl
  | case2 c t _ ih =>
    obtain ⟨⟨b, r⟩, hb, he⟩ := Option.map_eq_some_iff.1 h
    obtain ⟨rfl, rfl⟩ : c :: b = body ∧ r = rest := by simpa using he
    rw [List.cons_append, ih hb]
  | case3 => simp at h

/-- The digits split off behind the point and the rest make up the text. -/
theorem splitFraction_append (whole t : List Char) :
    Decimal.pointed whole (splitFraction t).1 ++ (splitFraction t).2 = whole ++ t := by
  unfold splitFraction
  split
  · split <;> simp [Decimal.pointed, List.takeWhile_append_dropWhile]
  · simp [Decimal.pointed]

namespace Segment

@[simp] theorem text_ofChar (c : Char) : (ofChar c).text = [c] := by
  unfold ofChar
  split <;> rfl

/-- A cut loses nothing: the segment and the rest make up the text that was cut. -/
theorem cut_append (c : Char) (t : List Char) : (cut c t).1.text ++ (cut c t).2 = c :: t := by
  unfold cut
  split
  · rfl
  split
  · next h =>
    subst h
    simp only [cutText]
    have hs := List.takeWhile_append_dropWhile (p := (· ≠ '"')) (l := t)
    split
    · next hd => rw [hd] at hs; simpa using hs
    · next hd => rw [hd] at hs; simpa using hs
  split
  · simp [cutNumber, splitFraction_append, List.takeWhile_append_dropWhile]
  split
  · simp [cutWord, List.takeWhile_append_dropWhile]
  split
  · next h =>
    subst h
    unfold cutSlash
    split
    · simp [cutLineComment, List.takeWhile_append_dropWhile]
    · unfold cutBlockComment
      split
      · next hc => simp [splitClose_append hc]
      · simp
    · simp
  · unfold cutSymbol
    split <;> simp

/-- The digits of a number begin with its first digit. -/
theorem pointed_ne_nil (c : Char) (whole fraction : List Char) : Decimal.pointed (c :: whole) fraction ≠ [] := by
  unfold Decimal.pointed
  split <;> simp

/-- A segment is never empty. -/
theorem text_cut_ne_nil (c : Char) (t : List Char) : (cut c t).1.text ≠ [] := by
  unfold cut
  split
  · simp
  split
  · unfold cutText
    dsimp only
    split <;> simp
  split
  · exact pointed_ne_nil _ _ _
  split
  · simp [cutWord]
  split
  · unfold cutSlash
    split
    · simp [cutLineComment]
    · unfold cutBlockComment
      split <;> simp
    · simp
  · unfold cutSymbol
    split <;> simp

/-- Behind a segment less remains than there was. -/
theorem length_cut_lt (c : Char) (t : List Char) : (cut c t).2.length < (c :: t).length := by
  have happ := congrArg List.length (cut_append c t)
  have hpos := List.length_pos_iff.2 (text_cut_ne_nil c t)
  rw [List.length_append] at happ
  omega

end Segment

/-- The segments of a source. -/
def segments (source : List Char) : List Segment :=
  match source with
  | [] => []
  | c :: t => (Segment.cut c t).1 :: segments (Segment.cut c t).2
termination_by source.length
decreasing_by exact Segment.length_cut_lt c t

@[simp] theorem segments_nil : segments [] = [] := by simp [segments]

theorem segments_cons (c : Char) (t : List Char) :
    segments (c :: t) = (Segment.cut c t).1 :: segments (Segment.cut c t).2 := by
  rw [segments]

/-- The segments put together are the source. -/
theorem text_segments (source : List Char) : (segments source).flatMap Segment.text = source := by
  fun_induction segments source with
  | case1 => rfl
  | case2 c t ih => rw [List.flatMap_cons, ih, Segment.cut_append]

/-- No segment of a source is empty. -/
theorem text_ne_nil_of_mem_segments {source : List Char} {s : Segment} (h : s ∈ segments source) : s.text ≠ [] := by
  fun_induction segments source with
  | case1 => simp at h
  | case2 c t ih =>
    rcases List.mem_cons.1 h with rfl | h
    · exact Segment.text_cut_ne_nil c t
    · exact ih h

end Loxeme
