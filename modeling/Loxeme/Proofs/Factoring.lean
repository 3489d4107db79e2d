import Loxeme.Proofs.LineText
import Mathlib.Data.List.Basic

/-!
# A source around one of its lines

A source can be taken apart around the text of a line: whole lines in front of it, the text, the carriage return that ends it or
nothing, and the rest of the source from the next line feed on (`Around.OfLine`). A number of a line leaves one way of doing so, if
any (`Around.OfLine.unique`), and that is how the text of a line is found (`line_factors_source`). The lines are also what stands
between the line feeds (`getElem?_splitOn_newline`).
-/

namespace Loxeme

variable {t u v : List Char} {source : List Char} {n : Nat}

/-- A source in four pieces, one behind the other. -/
structure Around where
  /-- What stands in front of a line. -/
  before : List Char
  /-- The text of the line. -/
  text : List Char
  /-- What ends the text in front of the line feed. -/
  ending : List Char
  /-- What stands behind the line, from its line feed on. -/
  after : List Char

/-- The pieces are those around the line of a number in a source. -/
structure Around.OfLine (f : Around) (source : List Char) (n : Nat) : Prop where
  /-- The pieces put together are the source. -/
  source_eq : source = f.before ++ f.text ++ f.ending ++ f.after
  /-- Lines are counted from one. -/
  one_le : 1 ≤ n
  /-- One line feed less than the number says stands in front of the line. -/
  newlines_eq : newlines f.before = n - 1
  /-- What stands in front of the line is empty or ends in a line feed. -/
  wholeLines : WholeLines f.before
  /-- The text has no line feed. -/
  not_mem : '\n' ∉ f.text
  /-- A carriage return ends the text or nothing does. -/
  ending_eq : f.ending = [] ∨ f.ending = ['\r']
  /-- Where nothing ends the text, no carriage return is the last of its characters. -/
  not_return : f.ending = [] → f.text.getLast? ≠ some '\r'
  /-- What stands behind the line is empty or begins with a line feed. -/
  after_begins : ∀ c ∈ f.after.head?, c = '\n'

/-! ## The text of a line and what ends it -/

/-- The first line of a text ends in front of the first line feed. -/
theorem firstLine_append_of_begins (ht : '\n' ∉ t) (hv : ∀ c ∈ v.head?, c = '\n') : firstLine (t ++ v) = t := by
  rw [firstLine_append ht]
  cases v with
  | nil => exact List.append_nil t
  | cons c v =>
    obtain rfl := hv c rfl
    exact List.append_nil t

/-- A text is its first line and what begins with the line feed behind it. -/
theorem exists_firstLine_append (t : List Char) : ∃ v, firstLine t ++ v = t ∧ ∀ c ∈ v.head?, c = '\n' := by
  refine ⟨t.dropWhile (· ≠ '\n'), List.takeWhile_append_dropWhile, ?_⟩
  intro c hc
  have hnot := List.head?_dropWhile_not (· ≠ '\n') t
  rw [hc] at hnot
  simpa using hnot

theorem not_mem_firstLine (t : List Char) : '\n' ∉ firstLine t := by
  intro h
  simpa using List.mem_takeWhile_imp h

/-- One carriage return is left out where it ends the text, and nothing where the text ends otherwise. -/
theorem dropReturn_append (hu : u = [] ∨ u = ['\r']) (hlast : u = [] → t.getLast? ≠ some '\r') : dropReturn (t ++ u) = t := by
  rcases hu with rfl | rfl
  · rw [List.append_nil, dropReturn, if_neg (hlast rfl)]
  · exact dropReturn_concat t

/-- What is left out at the end of a text is a carriage return or nothing. -/
theorem exists_dropReturn_append (t : List Char) :
    ∃ u, dropReturn t ++ u = t ∧ (u = [] ∨ u = ['\r']) ∧ (u = [] → (dropReturn t).getLast? ≠ some '\r') := by
  unfold dropReturn
  split
  · next h => exact ⟨['\r'], List.dropLast_append_getLast? _ h, Or.inr rfl, fun hu => by cases hu⟩
  · next h => exact ⟨[], List.append_nil t, Or.inl rfl, fun _ => h⟩

/-! ## The pieces around a line -/

namespace Around.OfLine

variable {f g : Around}

/-- Behind the whole lines in front of a line begins the line. -/
theorem dropLines_eq (h : f.OfLine source n) : dropLines (n - 1) source = some (f.text ++ f.ending ++ f.after) := by
  rw [h.source_eq, ← h.newlines_eq, List.append_assoc, List.append_assoc, dropLines_append h.wholeLines, List.append_assoc]

/-- The line is its text and what ends it. -/
theorem firstLine_eq (h : f.OfLine source n) : firstLine (f.text ++ f.ending ++ f.after) = f.text ++ f.ending := by
  refine firstLine_append_of_begins ?_ h.after_begins
  rw [List.mem_append, not_or]
  refine ⟨h.not_mem, ?_⟩
  rcases h.ending_eq with he | he
  · rw [he]
    exact List.not_mem_nil
  · rw [he]
    decide

theorem dropReturn_eq (h : f.OfLine source n) : dropReturn (f.text ++ f.ending) = f.text :=
  dropReturn_append h.ending_eq h.not_return

/-- A source is taken apart around the line of a number in one way only. -/
theorem unique (h : f.OfLine source n) (h' : g.OfLine source n) : f = g := by
  have hrest : f.text ++ f.ending ++ f.after = g.text ++ g.ending ++ g.after :=
    Option.some.inj (h.dropLines_eq.symm.trans h'.dropLines_eq)
  have hline : f.text ++ f.ending = g.text ++ g.ending := by rw [← h.firstLine_eq, hrest, h'.firstLine_eq]
  have htext : f.text = g.text := by rw [← h.dropReturn_eq, hline, h'.dropReturn_eq]
  have hbefore : f.before = g.before := by
    have hsource := h.source_eq.symm.trans h'.source_eq
    simp only [List.append_assoc] at hsource hrest
    rw [hrest] at hsource
    exact List.append_cancel_right hsource
  have hending : f.ending = g.ending := List.append_cancel_left (htext ▸ hline)
  have hafter : f.after = g.after := List.append_cancel_left (hline ▸ hrest)
  cases f
  cases g
  simp only [Around.mk.injEq]
  exact ⟨hbefore, htext, hending, hafter⟩

end Around.OfLine

/-- What remains behind one line less than the number says is taken apart as the line and what stands behind it. -/
theorem exists_ofLine (h : dropLines n source = some u) :
    ∃ f : Around, f.OfLine source (n + 1) ∧ f.text = dropReturn (firstLine u) := by
  obtain ⟨p, hsource, hn, hp⟩ := dropLines_eq_some_iff.1 h
  obtain ⟨v, hline, hv⟩ := exists_firstLine_append u
  obtain ⟨e, htext, he, hlast⟩ := exists_dropReturn_append (firstLine u)
  refine ⟨⟨p, dropReturn (firstLine u), e, v⟩, ?_, rfl⟩
  exact
    { source_eq := by rw [hsource, List.append_assoc p, htext, List.append_assoc, hline]
      one_le := Nat.succ_pos n
      newlines_eq := hn
      wholeLines := hp
      not_mem := fun hm => not_mem_firstLine u (htext ▸ List.mem_append_left e hm)
      ending_eq := he
      not_return := hlast
      after_begins := hv }

/-- The text of a line is the one that a source has around it. -/
theorem lineAt?_eq_some_iff {source line : String} :
    lineAt? source n = some line ↔ ∃ f : Around, f.OfLine source.toList n ∧ f.text = line.toList := by
  constructor
  · intro h
    cases n with
    | zero => cases h
    | succ n =>
      obtain ⟨u, hu, rfl⟩ := Option.map_eq_some_iff.1 h
      rw [String.toList_ofList]
      exact exists_ofLine hu
  · rintro ⟨f, hf, htext⟩
    obtain ⟨n, rfl⟩ := Nat.exists_eq_add_of_le' hf.one_le
    have hdrop := hf.dropLines_eq
    rw [Nat.add_sub_cancel] at hdrop
    rw [lineAt?, hdrop, Option.map_some, hf.firstLine_eq, hf.dropReturn_eq, htext, String.ofList_toList]

/-- What stands between the line feeds of a text is the first line of what remains behind the lines in front of it. -/
theorem getElem?_splitOn_newline (t : List Char) (n : Nat) : (t.splitOn '\n')[n]? = (dropLines n t).map firstLine := by
  induction t generalizing n with
  | nil => cases n <;> rfl
  | cons c t ih =>
    rw [List.splitOn_cons_eq_if_modifyHead]
    by_cases hc : c = '\n'
    · subst hc
      cases n with
      | zero => rfl
      | succ n => simpa [dropLines] using ih n
    · -- the character goes to the first of the pieces, and the others are those of what follows it
      rw [if_neg (by simpa using hc), List.getElem?_modifyHead, ih]
      cases n with
      | zero => simp [dropLines, firstLine, hc]
      | succ n => simp [dropLines, hc]

/-- The text of a line is what a source has around it on both sides: whole lines, one fewer than the number of the line says, then
the text with no line feed in it, then a carriage return or nothing, then nothing more or the next line feed. For each number from
one to one more than there are line feeds there is one way to take a source apart so, and for any other there is none and no text.
The text is also what stands between two line feeds, without one carriage return at its end. -/
theorem line_factors_source (source : String) (n : Nat) :
    (∀ line : String, lineAt? source n = some line ↔ ∃ f : Around, f.OfLine source.toList n ∧ f.text = line.toList) ∧
      (∀ f g : Around, f.OfLine source.toList n → g.OfLine source.toList n → f = g) ∧
      ((∃ f : Around, f.OfLine source.toList n) ↔ 1 ≤ n ∧ n ≤ 1 + newlines source.toList) ∧
      (lineAt? source n = none ↔ n = 0 ∨ 1 + newlines source.toList < n) ∧
      lineAt? source (n + 1) = (source.toList.splitOn '\n')[n]?.map fun t => String.ofList (dropReturn t) := by
  refine ⟨fun _ => lineAt?_eq_some_iff, fun _ _ hf hg => hf.unique hg, ?_, ?_, ?_⟩
  · rw [← lineAt?_isSome_iff, Option.isSome_iff_exists]
    constructor
    · rintro ⟨f, hf⟩
      exact ⟨_, lineAt?_eq_some_iff.2 ⟨f, hf, (String.toList_ofList).symm⟩⟩
    · rintro ⟨line, hline⟩
      obtain ⟨f, hf, -⟩ := lineAt?_eq_some_iff.1 hline
      exact ⟨f, hf⟩
  · rw [← Option.not_isSome_iff_eq_none, lineAt?_isSome_iff]
    omega
  · rw [getElem?_splitOn_newline, Option.map_map]
    rfl

/-- Of two carriage returns at the end of a line one belongs to its text, and behind the last line feed there is an empty line. -/
example : lineAt? "a\r\r\nb\n" 1 = some "a\r" ∧ lineAt? "a\r\r\nb\n" 3 = some "" ∧ lineAt? "a\r\r\nb\n" 4 = none := by
  decide +kernel

end Loxeme
