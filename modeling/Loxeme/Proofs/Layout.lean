import Loxeme.Proofs.Sinks
import Loxeme.Proofs.Unquoting
import Mathlib.Data.List.Basic
import Mathlib.Data.List.DropRight
import Mathlib.Data.List.Infix

/-!
# How diagnostics are laid out

A diagnostic takes up one row on a console, or three where the console knows the line (`Block`). No part of it has a line feed of its
own, because quoted texts have none, a tip shows a letter at most, and a line ends in front of its line feed. The bar of the second
row stands above the first one of the third. What a scan writes is such blocks, one behind the other (`blocks_laid_out`).
-/

namespace Loxeme

variable {c : Console} {d : Diagnostic} {t : List Char} {source line : String} {n : Nat}

/-! ## White space at the ends -/

/-- What is left of a text without the white space at its two ends. -/
structure Trimmed (text t : List Char) : Prop where
  /-- Only white space is left out in front and behind. -/
  parts : ∃ before after, text = before ++ t ++ after ∧ (∀ c ∈ before, isWhiteSpace c = true) ∧
    ∀ c ∈ after, isWhiteSpace c = true
  /-- What is left does not begin with white space. -/
  head : ∀ c ∈ t.head?, isWhiteSpace c = false
  /-- It does not end in white space. -/
  last : ∀ c ∈ t.getLast?, isWhiteSpace c = false

theorem trim_eq (t : List Char) : trim t = (t.dropWhile isWhiteSpace).rdropWhile isWhiteSpace := rfl

/-- What trimming gives begins what is left behind the white space in front. -/
theorem trimmed_trim (t : List Char) : Trimmed t (trim t) where
  parts := by
    refine ⟨t.takeWhile isWhiteSpace, (t.dropWhile isWhiteSpace).rtakeWhile isWhiteSpace, ?_,
      fun _ => List.mem_takeWhile_imp, fun _ => List.mem_rtakeWhile_imp⟩
    rw [trim_eq, List.append_assoc, List.rdropWhile_append_rtakeWhile, List.takeWhile_append_dropWhile]
  head := by
    intro c hc
    obtain ⟨u, hu⟩ := List.rdropWhile_prefix isWhiteSpace (l := t.dropWhile isWhiteSpace)
    rw [← trim_eq] at hu
    have hhead : (t.dropWhile isWhiteSpace).head? = some c := by
      rw [← hu, List.head?_append, hc]
      rfl
    have hnot := List.head?_dropWhile_not isWhiteSpace t
    rw [hhead] at hnot
    simpa using hnot
  last := by
    intro c hc
    obtain ⟨hne, rfl⟩ := List.mem_getLast?_eq_getLast hc
    exact Bool.eq_false_iff.2 (List.rdropWhile_last_not isWhiteSpace (t.dropWhile isWhiteSpace) hne)

/-- What is no white space is still there. -/
theorem Trimmed.mem {text : List Char} {a : Char} (h : Trimmed text t) (ha : a ∈ text) (hspace : isWhiteSpace a = false) :
    a ∈ t := by
  obtain ⟨before, after, rfl, hbefore, hafter⟩ := h.parts
  rw [List.mem_append, List.mem_append] at ha
  rcases ha with (ha | ha) | ha
  · exact absurd (hbefore a ha) (by simp [hspace])
  · exact ha
  · exact absurd (hafter a ha) (by simp [hspace])

theorem trim_subset (t : List Char) : trim t ⊆ t := by
  intro c hc
  obtain ⟨before, after, h, -⟩ := (trimmed_trim t).parts
  rw [h]
  simp [hc]

/-! ## Rows -/

/-- A row that a diagnostic can begin with. -/
def Headed (d : Diagnostic) (row : List Char) : Prop :=
  ("[line " ++ toString d.line ++ "] Error: ").toList <+: row

/-- The two rows that show a line: a bar behind spaces, and the number of the line with its trimmed text behind a bar, which is the
first bar of the row and stands below the other one. -/
structure Excerpted (n : Nat) (line : String) (gutter row : List Char) : Prop where
  gutter_eq : ∃ k, gutter = List.replicate k ' ' ++ ['|']
  row_eq : ∃ t, Trimmed line.toList t ∧ row = (toString n).toList ++ " | ".toList ++ t
  column_eq : row.idxOf '|' = gutter.idxOf '|'

/-- The rows that a console shows a diagnostic in: the first one alone where the console has no source or the source does not have the
line. -/
inductive Block (c : Console) (d : Diagnostic) : List (List Char) → Prop where
  | alone {header : List Char} : (∀ source, c.source = some source → lineAt? source d.line = none) → Headed d header →
      Block c d [header]
  | withLine {source line : String} {header gutter row : List Char} : c.source = some source →
      lineAt? source d.line = some line → Headed d header → Excerpted d.line line gutter row → Block c d [header, gutter, row]

/-- The row of spaces and a bar above the row of a line. -/
def gutter (n : Nat) : List Char := List.replicate ((toString n).length + 1) ' ' ++ ['|']

/-- The row of a line. -/
def lineRow (n : Nat) (line : String) : List Char := (toString n).toList ++ " | ".toList ++ trim line.toList

theorem toList_excerpt (n : Nat) (line : String) : (excerpt n line).toList = '\n' :: (gutter n ++ '\n' :: lineRow n line) := by
  simp [excerpt, gutter, lineRow]

/-- What is no digit does not stand in a written number. -/
theorem not_mem_toString {c : Char} (hc : c.isDigit = false) (n : Nat) : c ∉ (toString n).toList := by
  rw [Nat.toString_eq_ofList_toDigits, String.toList_ofList]
  exact not_mem_toDigits hc n

/-- The first bar of the row of a line stands behind the number and a space, as the bar above it does. -/
theorem excerpted (n : Nat) (line : String) : Excerpted n line (gutter n) (lineRow n line) where
  gutter_eq := ⟨_, rfl⟩
  row_eq := ⟨_, trimmed_trim _, rfl⟩
  column_eq := by
    have hspaces : '|' ∉ List.replicate ((toString n).length + 1) ' ' := fun h => absurd (List.eq_of_mem_replicate h) (by decide)
    rw [lineRow, gutter, List.append_assoc, List.idxOf_append_of_notMem (not_mem_toString rfl n), List.idxOf_append_of_notMem hspaces,
      String.length_toList, List.length_replicate]
    rfl

/-! ## What has no line feed -/

theorem newline_not_mem_message (f : Fault) : '\n' ∉ f.message.toList := by
  unfold Fault.message
  cases f with
  | unexpectedCharacter c => simpa [quoteChar] using newline_not_mem_quoted (Or.inl rfl) isHidden [c]
  | invalidNumber lexeme => simpa [quoteText] using newline_not_mem_quoted (Or.inr rfl) isHidden lexeme.toList
  | unterminatedString => simp
  | unterminatedComment => simp

/-- A tip shows a character or a text as it is, but the character is a letter. -/
theorem newline_not_mem_tip {f : Fault} (h : ∀ lexeme, f = .invalidNumber lexeme → '\n' ∉ lexeme.toList) {tip : String}
    (htip : f.tip? = some tip) : '\n' ∉ tip.toList := by
  unfold Fault.tip? at htip
  cases f with
  | unexpectedCharacter c =>
    dsimp only at htip
    split at htip
    · next hc =>
      have hne : '\n' ≠ c := by
        rintro rfl
        exact absurd hc (by decide)
      obtain rfl := Option.some.inj htip
      simpa using hne
    · cases htip
  | invalidNumber lexeme =>
    obtain rfl := Option.some.inj htip
    simpa using h lexeme rfl
  | unterminatedString =>
    obtain rfl := Option.some.inj htip
    simp
  | unterminatedComment =>
    obtain rfl := Option.some.inj htip
    simp

theorem newline_not_mem_header (h : ∀ lexeme, d.fault = .invalidNumber lexeme → '\n' ∉ lexeme.toList) :
    '\n' ∉ d.header.toList := by
  have hline : '\n' ∉ Nat.toDigits 10 d.line := not_mem_toDigits rfl d.line
  have hmessage := newline_not_mem_message d.fault
  unfold Diagnostic.header
  cases htip : d.fault.tip? with
  | none => simpa using ⟨hline, hmessage⟩
  | some tip => simpa using ⟨hline, hmessage, newline_not_mem_tip h htip⟩

theorem newline_not_mem_line (h : lineAt? source n = some line) : '\n' ∉ line.toList := by
  cases n with
  | zero => cases h
  | succ n =>
    obtain ⟨t, -, rfl⟩ := Option.map_eq_some_iff.1 h
    have hfirst : '\n' ∉ firstLine t := fun hm => by simpa using List.mem_takeWhile_imp hm
    rw [String.toList_ofList, dropReturn]
    split
    · exact fun hm => hfirst (List.mem_of_mem_dropLast hm)
    · exact hfirst

theorem newline_not_mem_gutter (n : Nat) : '\n' ∉ gutter n := by
  simp [gutter]

theorem newline_not_mem_lineRow (h : '\n' ∉ line.toList) (n : Nat) : '\n' ∉ lineRow n line := by
  have hnumber : '\n' ∉ (toString n).toList := not_mem_toString rfl n
  have htrim : '\n' ∉ trim line.toList := fun hm => h (trim_subset _ hm)
  rw [lineRow, List.mem_append, List.mem_append]
  rintro ((hm | hm) | hm)
  · exact hnumber hm
  · exact absurd hm (by decide)
  · exact htrim hm

/-! ## Blocks -/

theorem headed_header (d : Diagnostic) : Headed d d.header.toList := by
  have h : ∀ a message tip : String, a.toList <+: (a ++ message ++ tip).toList := by
    intro a message tip
    rw [String.toList_append, String.toList_append, List.append_assoc]
    exact List.prefix_append _ _
  exact h _ _ _

/-- A diagnostic is shown in one row or in three. -/
theorem block_render (c : Console) (h : ∀ lexeme, d.fault = .invalidNumber lexeme → '\n' ∉ lexeme.toList) :
    Block c d ((c.render d).toList.splitOn '\n') := by
  have hheader := newline_not_mem_header h
  unfold Console.render
  cases hline : c.lineOf? d with
  | none =>
    rw [List.splitOn_eq_singleton hheader]
    refine Block.alone (fun source hs => ?_) (headed_header d)
    rwa [Console.lineOf?, hs, Option.bind_some] at hline
  | some line =>
    obtain ⟨source, hs, hl⟩ := Option.bind_eq_some_iff.1 hline
    rw [String.toList_append, toList_excerpt, List.splitOn_append_cons_self_of_not_mem hheader,
      List.splitOn_append_cons_self_of_not_mem (newline_not_mem_gutter _),
      List.splitOn_eq_singleton (newline_not_mem_lineRow (newline_not_mem_line hl) _)]
    exact Block.withLine hs hl (headed_header d) (excerpted d.line line)

/-- A scan reports nothing of the digits that could have a line feed among them. -/
theorem block_of_mem_diagnostics (c : Console) (h : d ∈ diagnostics source) : Block c d ((c.render d).toList.splitOn '\n') :=
  block_render c fun lexeme hf => absurd hf (fault_ne_invalidNumber h lexeme)

/-! ## What is written -/

/-- Splitting a text at its line feeds gives one piece more than there are line feeds. -/
theorem length_splitOn_newline (t : List Char) : (t.splitOn '\n').length = newlines t + 1 := by
  induction t with
  | nil => rfl
  | cons c t ih =>
    rw [List.splitOn_cons_eq_if_modifyHead, newlines_cons]
    by_cases hc : c = '\n'
    · simp [hc, ih]
    · simp [hc, ih]

theorem Block.length_eq {rows : List (List Char)} (h : Block c d rows) : rows.length = 1 ∨ rows.length = 3 := by
  cases h with
  | alone => exact Or.inl rfl
  | withLine => exact Or.inr rfl

/-- Blocks one behind the other have as many line feeds as rows. -/
theorem newlines_written {ds : List Diagnostic} (h : ∀ d ∈ ds, Block c d ((c.render d).toList.splitOn '\n')) :
    ds.length ≤ newlines (c.written ds).toList ∧ newlines (c.written ds).toList ≤ 3 * ds.length := by
  induction ds with
  | nil => exact ⟨Nat.le_refl _, Nat.le_refl _⟩
  | cons d ds ih =>
    obtain ⟨hle, hge⟩ := ih fun e he => h e (List.mem_cons_of_mem _ he)
    have hlength := (h d List.mem_cons_self).length_eq
    rw [length_splitOn_newline] at hlength
    have hwritten : (c.written (d :: ds)).toList = (c.render d).toList ++ '\n' :: (c.written ds).toList := by
      simp [Console.written]
    rw [hwritten, newlines_append, newlines_cons, if_pos rfl, List.length_cons]
    omega

/-- Every console shows every diagnostic in a block of one row or of three, if the digits that it is about have no line feed among
them. That is so of all that a scan reports, and what is written for a scan is the blocks of its diagnostics, each with a line feed
behind it: between one and three line feeds for each of them. -/
theorem blocks_laid_out :
    (∀ (c : Console) (d : Diagnostic), (∀ lexeme, d.fault = .invalidNumber lexeme → '\n' ∉ lexeme.toList) →
        Block c d ((c.render d).toList.splitOn '\n')) ∧
      ∀ (s : Session) (source : String), ∃ (s' : Session) (written : String),
        s.perform (.scan source) = some (.tokens (tokens source), s') ∧ s'.written = s.written ++ written ∧
          written = String.join ((diagnostics source).map fun d => s.console.render d ++ "\n") ∧
          (∀ d ∈ diagnostics source, Block s.console d ((s.console.render d).toList.splitOn '\n')) ∧
          (diagnostics source).length ≤ newlines written.toList ∧
          newlines written.toList ≤ 3 * (diagnostics source).length := by
  refine ⟨fun c d h => block_render c h, fun s source => ?_⟩
  have hblocks : ∀ d ∈ diagnostics source, Block s.console d ((s.console.render d).toList.splitOn '\n') :=
    fun _ hd => block_of_mem_diagnostics s.console hd
  exact ⟨_, _, Session.perform_eq s (.scan source), rfl, rfl, hblocks, newlines_written hblocks⟩

/-- A console with a source of eleven lines, of which only the tenth has a text. -/
def tenthLine : Console := { source := some "\n\n\n\n\n\n\n\n\n  x = 1. | y\r\n" }

/-- Digits that are no number, on a line whose number has two digits. -/
theorem blocks_laid_out_tenthLine :
    (∀ lexeme, Fault.invalidNumber "1." = .invalidNumber lexeme → '\n' ∉ lexeme.toList) ∧
      tenthLine.render ⟨.invalidNumber "1.", 10⟩ =
        "[line 10] Error: Invalid number literal \"1.\". (`1.` could not be read as a number)\n   |\n10 | x = 1. | y" ∧
      Block tenthLine ⟨.invalidNumber "1.", 10⟩ ((tenthLine.render ⟨.invalidNumber "1.", 10⟩).toList.splitOn '\n') := by
  have hlexeme : ∀ lexeme, Fault.invalidNumber "1." = .invalidNumber lexeme → '\n' ∉ lexeme.toList := by
    intro lexeme h
    rw [← Fault.invalidNumber.inj h]
    decide
  exact ⟨hlexeme, by decide +kernel, blocks_laid_out.1 tenthLine ⟨.invalidNumber "1.", 10⟩ hlexeme⟩

end Loxeme
