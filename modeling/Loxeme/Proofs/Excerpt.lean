import Loxeme.Proofs.Layout
import Loxeme.Proofs.LineText
import Loxeme.Proofs.Located

/-!
# The lines that a scan points at

The line of a token and of a diagnostic is counted while the source is scanned, and the text of a line is cut out of the source by
its number. The two agree: the line of a token has the end of its lexeme on it (`exists_line_of_token`), that of a stray
character has the character on it, and that of what has no end is the last line of the source (`line_of_diagnostic`). So a console
that was given the source shows every diagnostic together with the line that it is about.
-/

namespace Loxeme

variable {c : Char} {t u v before text after : List Char} {n : Nat} {source : String}

/-- The number of a line that a source has and behind which it has no other. -/
def IsLastLine (source : String) (n : Nat) : Prop := (lineAt? source n).isSome ∧ lineAt? source (n + 1) = none

theorem isLastLine_iff : IsLastLine source n ↔ n = 1 + newlines source.toList := by
  rw [IsLastLine, ← Option.not_isSome_iff_eq_none, lineAt?_isSome_iff, lineAt?_isSome_iff]
  omega

/-! ## The line of a piece of a source -/

/-- A piece of the line around a place is on the line of that place, if it does not end in a blank. -/
theorem exists_line (h : source.toList = t ++ v) (hu : u <:+: lastLine t ++ firstLine v)
    (hblank : ∀ c ∈ u.getLast?, ¬ Blank c) :
    ∃ line, lineAt? source (1 + newlines t) = some line ∧ u <:+: line.toList := by
  refine ⟨_, lineAt?_of_eq h, ?_⟩
  rw [String.toList_ofList]
  refine infix_dropReturn hu ?_
  intro hlast
  exact hblank _ hlast blank_return

/-- A text that does not end in a blank has its last line on the line that it ends on. -/
theorem exists_line_of_text (h : source.toList = before ++ text ++ after) (hblank : ∀ c ∈ text.getLast?, ¬ Blank c) :
    ∃ line, lineAt? source (1 + newlines (before ++ text)) = some line ∧ lastLine text <:+: line.toList := by
  refine exists_line h ((lastLine_suffix_append before text).isInfix.trans (List.prefix_append _ _).isInfix) ?_
  intro c hc
  obtain ⟨w, hw⟩ : lastLine text <:+ text := List.rtakeWhile_suffix _ _
  refine hblank c ?_
  rw [← hw, List.getLast?_append, hc]
  rfl

/-- A character that is no blank is on the line that it stands on. -/
theorem exists_line_of_character (h : source.toList = before ++ c :: after) (hblank : ¬ Blank c) :
    ∃ line, lineAt? source (1 + newlines before) = some line ∧ c ∈ line.toList := by
  have hfeed := ne_newline_of_not_blank hblank
  have hline : firstLine (c :: after) = c :: firstLine after := List.takeWhile_cons_of_pos (by simpa using hfeed)
  have hinfix : [c] <:+: lastLine before ++ firstLine (c :: after) := ⟨lastLine before, firstLine after, by simp [hline]⟩
  obtain ⟨line, hat, hc⟩ := exists_line h hinfix (by simpa using hblank)
  exact ⟨line, hat, hc.subset (by simp)⟩

/-! ## The line of what a scan tells of -/

/-- A token does not end in a blank. -/
theorem FirstSegment.not_blank_getLast {r : List Char} {s : Segment} {k : Kind} {l : Option Literal} (h : FirstSegment r s)
    (hy : s.yield = .token k l) : ∀ c ∈ s.text.getLast?, ¬ Blank c := by
  intro c hc
  cases h with
  | quoted =>
    rw [← List.cons_append, List.getLast?_concat] at hc
    obtain rfl := Option.some.inj hc
    decide
  | lexeme _ _ hlex => exact hlex.not_blank c (List.mem_of_getLast? hc)
  | _ => cases hy

theorem exists_line_of_token {t : Token} (h : t ∈ tokens source) (hk : t.kind ≠ .endOfInput) :
    ∃ line, lineAt? source t.line = some line ∧ lastLine t.lexeme.toList <:+: line.toList := by
  rcases mem_tokens_iff.1 h with h | rfl
  · obtain ⟨o, hsource, hfirst, hevent⟩ := exists_occurrence h
    obtain ⟨hy, hlexeme, hline⟩ := Occurrence.yield_of_token hevent
    rw [hline, hlexeme, String.toList_ofList]
    exact exists_line_of_text hsource.symm (hfirst.not_blank_getLast hy)
  · exact absurd rfl hk

/-- The token for the end of the input is on the last line. -/
theorem isLastLine_of_endOfInput {t : Token} (h : t ∈ tokens source) (hk : t.kind = .endOfInput) : IsLastLine source t.line := by
  rcases mem_tokens_iff.1 h with h | rfl
  · obtain ⟨o, -, hfirst, hevent⟩ := exists_occurrence h
    exact absurd hk (hfirst.kind_ne_endOfInput (Occurrence.yield_of_token hevent).1)
  · exact isLastLine_iff.2 (endLine_eq source)

/-- The line of a diagnostic is there. A stray character is on it, and where something has no end it is the last one. -/
theorem line_of_diagnostic {d : Diagnostic} (h : d ∈ diagnostics source) :
    ∃ line, lineAt? source d.line = some line ∧ (∀ c, d.fault = .unexpectedCharacter c → c ∈ line.toList) ∧
      (d.fault.Unterminated → IsLastLine source d.line) := by
  obtain ⟨o, hsource, hfirst, hevent⟩ := exists_occurrence (mem_diagnostics_iff.1 h)
  rcases Occurrence.fault_of_event? hfirst hevent with ⟨c, hfault, htext, hblank, hline⟩ | ⟨hopen, -, hline⟩
  · rw [Occurrence.source, htext, List.append_assoc] at hsource
    obtain ⟨line, hat, hc⟩ := exists_line_of_character hsource.symm hblank
    rw [hfault]
    refine ⟨line, hline ▸ hat, ?_, fun hu => absurd hu (Fault.not_unterminated_stray c)⟩
    intro c' hc'
    exact Fault.unexpectedCharacter.inj hc' ▸ hc
  · have hlast : IsLastLine source d.line := isLastLine_iff.2 (hsource ▸ hline)
    obtain ⟨line, hat⟩ := Option.isSome_iff_exists.1 hlast.1
    refine ⟨line, hat, ?_, fun _ => hlast⟩
    intro c hc
    exact absurd (hc ▸ hopen) (Fault.not_unterminated_stray c)

/-! ## What is shown -/

/-- A console that was given a source shows a diagnostic together with the line of the source that it is about, of which it shows
the text `text`. -/
structure Shown (source : String) (d : Diagnostic) (line : String) (text : List Char) : Prop where
  /-- The source has the line. -/
  lineAt_eq : lineAt? source d.line = some line
  /-- What is shown of it is the line without the white space at its ends. -/
  trimmed : Trimmed line.toList text
  /-- Below the row that the diagnostic begins with there is a row with a bar, and then one with the number of the line and what is
  shown of it. -/
  rows_eq : ∃ header bar, Headed d header ∧ (∃ k, bar = List.replicate k ' ' ++ ['|']) ∧
    (({ source := some source } : Console).render d).toList.splitOn '\n' =
      [header, bar, (toString d.line).toList ++ " | ".toList ++ text]
  /-- A stray character is on the line, and in what is shown of it unless it is white space. -/
  stray : ∀ c, d.fault = .unexpectedCharacter c → c ∈ line.toList ∧ (isWhiteSpace c = false → c ∈ text)
  /-- What has no end is on the last line. -/
  unterminated : d.fault.Unterminated → IsLastLine source d.line

/-- A console with the source shows the line of a diagnostic of a scan, if the source has that line, in three rows. -/
theorem rows_of_mem_diagnostics {d : Diagnostic} {line : String} (h : d ∈ diagnostics source)
    (hline : lineAt? source d.line = some line) :
    ∃ header bar row, Headed d header ∧ Excerpted d.line line bar row ∧
      (({ source := some source } : Console).render d).toList.splitOn '\n' = [header, bar, row] := by
  have hblock := block_of_mem_diagnostics { source := some source } h
  generalize (({ source := some source } : Console).render d).toList.splitOn '\n' = rows at hblock
  cases hblock with
  | alone hnone =>
    rw [hnone source rfl] at hline
    cases hline
  | withLine hsource hat hheaded hexcerpted =>
    obtain rfl := Option.some.inj hsource
    obtain rfl := Option.some.inj (hat.symm.trans hline)
    exact ⟨_, _, _, hheaded, hexcerpted, rfl⟩

theorem shown_of_mem_diagnostics {d : Diagnostic} (h : d ∈ diagnostics source) : ∃ line text, Shown source d line text := by
  obtain ⟨line, hat, hstray, hlast⟩ := line_of_diagnostic h
  obtain ⟨header, bar, row, hheaded, hexcerpted, hrows⟩ := rows_of_mem_diagnostics h hat
  obtain ⟨text, htrimmed, rfl⟩ := hexcerpted.row_eq
  exact ⟨line, text, {
    lineAt_eq := hat
    trimmed := htrimmed
    rows_eq := ⟨header, bar, hheaded, hexcerpted.gutter_eq, hrows⟩
    stray := fun c hc => ⟨hstray c hc, htrimmed.mem (hstray c hc)⟩
    unterminated := hlast }⟩

/-- White space may be trimmed away even where it is a stray character. -/
example : ¬ Blank '\u00a0' ∧ '\u00a0' ∈ ['a', '\u00a0'] ∧ '\u00a0' ∉ trim ['a', '\u00a0'] := by decide

/-- A scan points at lines of the source. The line of a token is there and has on it what the lexeme has behind its last line
feed, and that of the end of the input is the last one. The line of a diagnostic is there too, and a console with the source shows
it in a row of its own. A stray character is on that line, and in that row unless it is white space. Where something has no end the
line is the last one. -/
theorem scan_points_at_lines (source : String) :
    (∀ t ∈ tokens source, t.kind ≠ .endOfInput →
        ∃ line, lineAt? source t.line = some line ∧ lastLine t.lexeme.toList <:+: line.toList) ∧
      (∀ t ∈ tokens source, t.kind = .endOfInput → IsLastLine source t.line) ∧
      ∀ d ∈ diagnostics source, ∃ line text, Shown source d line text :=
  ⟨fun _ => exists_line_of_token, fun _ => isLastLine_of_endOfInput, fun _ => shown_of_mem_diagnostics⟩

/-- A text in quotes over two lines is on the second one, with what it has there. -/
example : (tokens "x = \"a\r\nb\" ;").map Token.line = [1, 1, 2, 2, 2] ∧ lineAt? "x = \"a\r\nb\" ;" 2 = some "b\" ;" := by
  decide +kernel

end Loxeme
