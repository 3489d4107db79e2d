import Loxeme.Proofs.Following
import Loxeme.Proofs.Joining
import Loxeme.Proofs.Lines
import Loxeme.Proofs.Spacing

/-!
# Repairing a source

Where a text in quotes or a comment has no end, the rest of the source is part of it, so it is the last segment and the only
one of its kind (`Segmented.closed_or_open`). Every other fault is a stray character. When what is missing is added behind the
source, the last segment is closed at the very end, and nothing in front of it is cut in another way
(`Segmented.append_last`), so that the one fault is gone and nothing else has changed.
-/

namespace Loxeme

/-- The diagnostics that the segments a source begins with give. -/
def diagnosticsOf (l : List Segment) : List Diagnostic := ((place {} l).filterMap Placed.event?).filterMap Event.diagnostic?

/-! ## The open segment -/

/-- Of the segments of a text only the last one can be open. -/
theorem Segmented.closed_or_open {r : List Char} {l : List Segment} (h : Segmented r l) :
    (∀ s ∈ l, ¬ s.Open) ∨
      ∃ l' s, l = l' ++ [s] ∧ (∀ s' ∈ l', ¬ s'.Open) ∧ s.Open ∧ FirstSegment s.text s := by
  induction h with
  | nil => exact Or.inl (by simp)
  | @cons s rest l hfirst hseg ih =>
    by_cases ho : s.Open
    · obtain rfl := hfirst.eq_nil_of_open ho
      obtain rfl : l = [] := by rw [segmented_iff.1 hseg, segments_nil]
      rw [List.append_nil] at hfirst
      exact Or.inr ⟨[], s, rfl, by simp, ho, hfirst⟩
    · rcases ih with hcl | ⟨l', s', rfl, hcl, ho', hf'⟩
      · exact Or.inl (List.forall_mem_cons.2 ⟨ho, hcl⟩)
      · exact Or.inr ⟨s :: l', s', rfl, List.forall_mem_cons.2 ⟨ho, hcl⟩, ho', hf'⟩

/-- When a text goes on, its last segment can become longer while the others stay what they are: that one contains the quote
or the slash it begins with, which no lexeme in front of it reaches past. -/
theorem Segmented.append_last {r q : List Char} {l : List Segment} {s s' : Segment} {c : Char} (h : Segmented r (l ++ [s]))
    (hc : c = '"' ∨ c = '/') (hm : c ∈ s.text) (hs' : s'.text = s.text ++ q) (hfirst : FirstSegment s'.text s') :
    Segmented (r ++ q) (l ++ [s']) := by
  induction l generalizing r with
  | nil =>
    have hr : r ++ q = s'.text ++ [] := by
      rw [← h.text_eq, hs']
      simp
    rw [hr]
    exact Segmented.cons (by rwa [List.append_nil]) Segmented.nil
  | cons a l ih =>
    have ha : a ∈ segments r := by simp [← segmented_iff.1 h]
    have hne := text_ne_nil_of_mem_segments ha
    cases h with
    | @cons _ rest _ hf hseg =>
      have hmem : c ∈ rest := by
        rw [← hseg.text_eq]
        simp [hm]
      have hclosed : ¬ a.Open := by
        intro ho
        rw [hf.eq_nil_of_open ho] at hmem
        cases hmem
      rw [List.append_assoc]
      exact Segmented.cons (hf.of_stops hclosed (hf.stops.append hne hc hmem q)) (ih hseg)

/-! ## What is told of the last segment -/

theorem finish_append (p : Position) (l m : List Segment) : finish p (l ++ m) = finish (finish p l) m := by
  induction l generalizing p with
  | nil => rfl
  | cons s rest ih => exact ih _

/-- A scan tells of the last segment last, on the line that the source ends on. -/
theorem events_of_segments_eq_append {source : String} {l : List Segment} {s : Segment} (h : segments source.toList = l ++ [s]) :
    events source = (place {} l).filterMap Placed.event? ++ (s.event? (endLine source)).toList := by
  have hplaced : (place (finish {} l) [s]).filterMap Placed.event? = (s.event? ((finish {} l).advance s.text).line).toList := by
    rw [events_place_cons]
    exact List.append_nil _
  have hline : ((finish {} l).advance s.text).line = endLine source := by
    rw [endLine, h, finish_append]
    rfl
  rw [events, placedSegments, h, place_append, List.filterMap_append, hplaced, hline]

/-- Of closed segments no other fault is told than stray characters. -/
theorem stray_of_closed {source : List Char} {l : List Segment} {d : Diagnostic} (hmem : ∀ s ∈ l, s ∈ segments source)
    (hclosed : ∀ s ∈ l, ¬ s.Open) (hd : d ∈ diagnosticsOf l) : ∃ c, d.fault = .unexpectedCharacter c := by
  have hf : d.fault ∈ l.filterMap Segment.fault? := fault_place {} l ▸ List.mem_map_of_mem hd
  obtain ⟨s, hs, hsf⟩ := List.mem_filterMap.1 hf
  have hy : s.yield = .fault d.fault := by
    unfold Segment.fault? at hsf
    split at hsf
    · next hy =>
      cases hsf
      exact hy
    · cases hsf
  obtain ⟨rest, hfirst⟩ := firstSegment_of_mem (hmem s hs)
  rcases hfirst.stray_or_unterminated hy with ⟨c, hc, -⟩ | ⟨hu, -⟩
  · exact ⟨c, hc⟩
  · exact absurd ⟨_, hy, hu⟩ (hclosed s hs)

/-! ## Adding what is missing -/

/-- A comment without `*/` in it has one at its very end when that is added, also where it ends in an asterisk. -/
theorem not_infix_concat_star {t : List Char} (h : ¬ ['*', '/'] <:+: t) : ¬ ['*', '/'] <:+: t ++ ['*'] := by
  rw [List.infix_concat_iff]
  rintro (⟨u, hu⟩ | hi)
  · have hlast := congrArg List.getLast? hu
    simp at hlast
  · exact h hi

/-- A text in quotes without its end, closed by a quote behind the source. -/
theorem segments_append_quote {source : String} {l : List Segment} {body : List Char} (hq : '"' ∉ body)
    (h : segments source.toList = l ++ [⟨'"' :: body, .fault .unterminatedString⟩]) :
    segments (source ++ "\"").toList =
      l ++ [⟨'"' :: (body ++ ['"']), .token .string (some (.text (String.ofList body)))⟩] := by
  have hseg := segmented_iff.2 h.symm
  rw [String.toList_append]
  refine (segmented_iff.1 (hseg.append_last (Or.inl rfl) (by simp) (by simp) ?_)).symm
  exact @FirstSegment.quoted _ body [] (by simp) hq

/-- A comment without its end, closed by an asterisk and a slash behind the source. -/
theorem segments_append_close {source : String} {l : List Segment} {t : List Char} (hn : ¬ ['*', '/'] <:+: t)
    (h : segments source.toList = l ++ [⟨'/' :: '*' :: t, .fault .unterminatedComment⟩]) :
    segments (source ++ "*/").toList = l ++ [⟨'/' :: '*' :: (t ++ ['*', '/']), .nothing⟩] := by
  have hseg := segmented_iff.2 h.symm
  have hclose := shortest_close (not_infix_concat_star hn) []
  rw [List.append_nil] at hclose
  rw [String.toList_append]
  exact (segmented_iff.1 (hseg.append_last (Or.inr rfl) (by simp) (by simp) (FirstSegment.blockComment rfl hclose))).symm

/-- Text without a line feed behind a source does not change the line that the source ends on. -/
theorem endLine_append {source q : String} (h : newlines q.toList = 0) : endLine (source ++ q) = endLine source := by
  rw [endLine_eq, endLine_eq, String.toList_append, newlines_append, h, Nat.add_zero]

/-- An added end of a comment removes the last fault and changes nothing else. -/
theorem scan_append_close {source : String} {l : List Segment} {t : List Char} (hn : ¬ ['*', '/'] <:+: t)
    (h : segments source.toList = l ++ [⟨'/' :: '*' :: t, .fault .unterminatedComment⟩]) :
    diagnostics source = diagnosticsOf l ++ [⟨.unterminatedComment, endLine source⟩] ∧
      diagnostics (source ++ "*/") = diagnosticsOf l ∧ tokens (source ++ "*/") = tokens source := by
  have hevents := events_of_segments_eq_append h
  have hevents' := events_of_segments_eq_append (segments_append_close hn h)
  rw [endLine_append (by decide)] at hevents'
  simp only [Segment.event?, Option.toList_some, Option.toList_none, List.append_nil] at hevents hevents'
  refine ⟨?_, by rw [diagnostics, hevents', diagnosticsOf], ?_⟩
  · simp [diagnostics, diagnosticsOf, hevents, Event.diagnostic?]
  · rw [tokens, tokens, hevents, hevents', endLine_append (by decide), List.filterMap_append]
    simp [Event.token?]

/-- An added quote removes the last fault and gives one more token, on the line of the end of the input. -/
theorem scan_append_quote {source : String} {l : List Segment} {body : List Char} (hq : '"' ∉ body)
    (h : segments source.toList = l ++ [⟨'"' :: body, .fault .unterminatedString⟩]) :
    diagnostics source = diagnosticsOf l ++ [⟨.unterminatedString, endLine source⟩] ∧
      diagnostics (source ++ "\"") = diagnosticsOf l ∧
      tokens (source ++ "\"") = (tokens source).dropLast ++
        [⟨.string, "\"" ++ String.ofList body ++ "\"", some (.text (String.ofList body)), endLine source⟩,
          .endOfInput (endLine source)] := by
  have hevents := events_of_segments_eq_append h
  have hevents' := events_of_segments_eq_append (segments_append_quote hq h)
  have hlexeme : String.ofList ('"' :: (body ++ ['"'])) = "\"" ++ String.ofList body ++ "\"" := by
    rw [← String.toList_inj]
    simp
  rw [endLine_append (by decide)] at hevents'
  simp only [Segment.event?, Option.toList_some, hlexeme] at hevents hevents'
  refine ⟨?_, ?_, ?_⟩
  · simp [diagnostics, diagnosticsOf, hevents, Event.diagnostic?]
  · simp [diagnostics, diagnosticsOf, hevents', Event.diagnostic?]
  · rw [tokens, tokens, hevents, hevents', endLine_append (by decide)]
    simp [Event.token?]

/-- The faults of a source are stray characters and at most one thing without its end, which is found on the line of the end of
the input. What its tip tells to add behind the source removes that fault and no other: an added quote gives one more token,
the text from the last quote on, in front of the end of the input, and an added end of a comment changes no token. -/
theorem scan_repaired (source : String) :
    ∃ (strays : List Diagnostic) (last : Token), (∀ d ∈ strays, ∃ c, d.fault = .unexpectedCharacter c) ∧
      (tokens source).getLast? = some last ∧ last.IsEnd ∧
      (diagnostics source = strays ∨
        (∃ p w : String, source = p ++ "\"" ++ w ∧ '"' ∉ w.toList ∧
          diagnostics source = strays ++ [⟨.unterminatedString, last.line⟩] ∧
          Fault.unterminatedString.tip? = some ("Add a closing `" ++ "\"" ++ "` to end the string") ∧
          diagnostics (source ++ "\"") = strays ∧
          tokens (source ++ "\"") =
            (tokens source).dropLast ++ [⟨.string, "\"" ++ w ++ "\"", some (.text w), last.line⟩, last]) ∨
        (diagnostics source = strays ++ [⟨.unterminatedComment, last.line⟩] ∧
          Fault.unterminatedComment.tip? = some ("Add a closing `" ++ "*/" ++ "` to end the comment") ∧
          diagnostics (source ++ "*/") = strays ∧ tokens (source ++ "*/") = tokens source)) := by
  have hlast : (tokens source).getLast? = some (.endOfInput (endLine source)) := by rw [tokens, List.getLast?_concat]
  have hend := Token.isEnd_endOfInput (endLine source)
  rcases (segmented_segments source.toList).closed_or_open with hclosed | ⟨l, s, hl, hclosed, ho, hfirst⟩
  · exact ⟨diagnostics source, _, fun d hd => stray_of_closed (fun s hs => hs) hclosed hd, hlast, hend, Or.inl rfl⟩
  refine ⟨diagnosticsOf l, _, ?_, hlast, hend, Or.inr ?_⟩
  · intro d hd
    exact stray_of_closed (fun s hs => hl ▸ List.mem_append_left _ hs) hclosed hd
  rcases hfirst.comment_or_text_of_open ho with ⟨t, ht, hn, hs⟩ | ⟨body, hbody, hq, hs⟩
  · right
    rw [hs, ht] at hl
    obtain ⟨hd, hd', ht'⟩ := scan_append_close hn hl
    exact ⟨hd, by decide +kernel, hd', ht'⟩
  · left
    rw [hs, hbody] at hl
    obtain ⟨hd, hd', ht'⟩ := scan_append_quote hq hl
    refine ⟨String.ofList (l.flatMap Segment.text), String.ofList body, ?_, by simpa using hq, hd, by decide +kernel, hd', ht'⟩
    rw [← String.toList_inj, ← text_segments source.toList, hl]
    simp

end Loxeme
