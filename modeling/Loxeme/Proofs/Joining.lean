import Loxeme.Proofs.Boundary

/-!
# Texts joined by a line feed

A line feed ends every segment that has an end, so a text whose segments all have one is cut in the same way whether or not a
line feed and a further text follow, and the further text is cut as if it stood alone. Only its lines are different, all by the
same number (`events_append_newline`). A scan of a whole file is therefore a scan of its lines, one by one.
-/

namespace Loxeme

/-- A text whose scan leaves nothing open: a text in quotes or a comment without its end. -/
def Closed (source : String) : Prop := ∀ d ∈ diagnostics source, ¬ d.fault.Unterminated

instance (source : String) : Decidable (Closed source) := inferInstanceAs (Decidable (∀ d ∈ _, _))

/-- The token a number of lines further down. -/
def Token.addLines (n : Nat) (t : Token) : Token := { t with line := n + t.line }

/-- The diagnostic a number of lines further down. -/
def Diagnostic.addLines (n : Nat) (d : Diagnostic) : Diagnostic := { d with line := n + d.line }

/-- What is told of, a number of lines further down. -/
def Event.addLines (n : Nat) : Event → Event
  | token t => token (t.addLines n)
  | fault d => fault (d.addLines n)

/-! ## The segments of joined texts -/

/-- A text without an open segment is cut in the same way with a line feed and a further text behind it. -/
theorem Segmented.append_newline {r q : List Char} {l m : List Segment} (h : Segmented r l) (h' : Segmented q m)
    (hopen : ∀ s ∈ l, ∀ f, s.yield = .fault f → ¬ f.Unterminated) :
    Segmented (r ++ '\n' :: q) (l ++ ⟨['\n'], .nothing⟩ :: m) := by
  induction h with
  | nil => exact @Segmented.cons ⟨['\n'], .nothing⟩ q m (FirstSegment.blank rfl blank_newline) h'
  | cons hs _ ih =>
    have hfirst := hs.append (q := q) (c := '\n') blank_newline (hopen _ (by simp)) (fun _ => rfl)
    rw [List.append_assoc] at hfirst ⊢
    exact Segmented.cons hfirst (ih fun s hs => hopen s (by simp [hs]))

/-- In a closed source no segment is open. -/
theorem Closed.not_unterminated {source : String} (h : Closed source) :
    ∀ s ∈ segments source.toList, ∀ f, s.yield = .fault f → ¬ f.Unterminated := by
  intro s hs f hf
  have hmem : f ∈ (diagnostics source).map Diagnostic.fault := by
    rw [fault_diagnostics]
    exact List.mem_filterMap.2 ⟨s, hs, by simp [Segment.fault?, hf]⟩
  obtain ⟨d, hd, rfl⟩ := List.mem_map.1 hmem
  exact h d hd

theorem segments_append_newline {a : String} (h : Closed a) (q : List Char) :
    segments (a.toList ++ '\n' :: q) = segments a.toList ++ ⟨['\n'], .nothing⟩ :: segments q :=
  (segmented_iff.1 ((segmented_segments _).append_newline (segmented_segments q) h.not_unterminated)).symm

/-! ## The places of joined texts -/

theorem place_append (p : Position) (l m : List Segment) : place p (l ++ m) = place p l ++ place (finish p l) m := by
  induction l generalizing p with
  | nil => rfl
  | cons s rest ih => simp [place, finish, ih]

/-- What segments tell of is as many lines further down as they begin, and nothing else of it depends on where that is. -/
theorem events_place_addLines {p q : Position} {n : Nat} (h : p.line = n + q.line) (l : List Segment) :
    (place p l).filterMap Placed.event? = ((place q l).filterMap Placed.event?).map (Event.addLines n) := by
  induction l generalizing p q with
  | nil => rfl
  | cons s rest ih =>
    have hadv : (p.advance s.text).line = n + (q.advance s.text).line := by simp [Position.advance, h, Nat.add_assoc]
    have hrest := ih hadv
    cases hy : s.yield with
    | nothing => simpa [place, Placed.event?, hy] using hrest
    | token kind literal => simp [place, Placed.event?, hy, hrest, hadv, Event.addLines, Token.addLines]
    | fault f => simp [place, Placed.event?, hy, hrest, hadv, Event.addLines, Diagnostic.addLines]

/-- A scan of joined texts tells of the first text and then of the second, the second as many lines further down as the first
text has. -/
theorem events_append_newline {a : String} (h : Closed a) (b : String) :
    events (a ++ "\n" ++ b) = events a ++ (events b).map (Event.addLines (endLine a)) := by
  have hlist : (a ++ "\n" ++ b).toList = a.toList ++ '\n' :: b.toList := by simp
  rw [events, placedSegments, hlist, segments_append_newline h, place_append, List.filterMap_append, place]
  rw [List.filterMap_cons]
  simp only [Placed.event?]
  congr 1
  exact events_place_addLines rfl _

theorem endLine_append_newline (a b : String) : endLine (a ++ "\n" ++ b) = endLine a + endLine b := by
  simp only [endLine_eq, String.toList_append, newlines_append]
  have : newlines "\n".toList = 1 := by decide
  omega

theorem filterMap_token?_addLines (n : Nat) (l : List Event) :
    (l.map (Event.addLines n)).filterMap Event.token? = (l.filterMap Event.token?).map (Token.addLines n) := by
  rw [List.filterMap_map, List.map_filterMap]
  congr 1
  funext e
  cases e <;> rfl

theorem filterMap_diagnostic?_addLines (n : Nat) (l : List Event) :
    (l.map (Event.addLines n)).filterMap Event.diagnostic? =
      (l.filterMap Event.diagnostic?).map (Diagnostic.addLines n) := by
  rw [List.filterMap_map, List.map_filterMap]
  congr 1
  funext e
  cases e <;> rfl

/-! ## The scan of joined texts -/

theorem tokens_append_newline {a : String} (h : Closed a) (b : String) :
    tokens (a ++ "\n" ++ b) = (tokens a).dropLast ++ (tokens b).map (Token.addLines (endLine a)) := by
  simp only [tokens, events_append_newline h, endLine_append_newline, List.filterMap_append, filterMap_token?_addLines,
    List.map_append, List.dropLast_concat, List.append_assoc]
  rfl

theorem diagnostics_append_newline {a : String} (h : Closed a) (b : String) :
    diagnostics (a ++ "\n" ++ b) = diagnostics a ++ (diagnostics b).map (Diagnostic.addLines (endLine a)) := by
  simp only [diagnostics, events_append_newline h, List.filterMap_append, filterMap_diagnostic?_addLines]

/-- The tokens of texts scanned one by one, each as many lines further down as the texts in front of it have, with the end of
the input behind the last text only. -/
def tokensByLine (n : Nat) : List String → List Token
  | [] => []
  | [a] => (tokens a).map (Token.addLines n)
  | a :: b :: rest => (tokens a).dropLast.map (Token.addLines n) ++ tokensByLine (n + endLine a) (b :: rest)

/-- The diagnostics of texts scanned one by one, each as many lines further down as the texts in front of it have. -/
def diagnosticsByLine (n : Nat) : List String → List Diagnostic
  | [] => []
  | a :: rest => (diagnostics a).map (Diagnostic.addLines n) ++ diagnosticsByLine (n + endLine a) rest

theorem Token.map_addLines_addLines (m n : Nat) (l : List Token) :
    (l.map (Token.addLines m)).map (Token.addLines n) = l.map (Token.addLines (n + m)) := by
  simp [Token.addLines, Nat.add_assoc]

theorem Diagnostic.map_addLines_addLines (m n : Nat) (l : List Diagnostic) :
    (l.map (Diagnostic.addLines m)).map (Diagnostic.addLines n) = l.map (Diagnostic.addLines (n + m)) := by
  simp [Diagnostic.addLines, Nat.add_assoc]

/-- Closed texts joined by line feeds, and any text behind them, are scanned as they are one by one. -/
theorem scan_intercalate (n : Nat) {lines : List String} (hne : lines ≠ []) (h : ∀ a ∈ lines.dropLast, Closed a) :
    (tokens ("\n".intercalate lines)).map (Token.addLines n) = tokensByLine n lines ∧
      (diagnostics ("\n".intercalate lines)).map (Diagnostic.addLines n) = diagnosticsByLine n lines := by
  induction lines generalizing n with
  | nil => exact absurd rfl hne
  | cons a rest ih =>
    cases rest with
    | nil => simp [tokensByLine, diagnosticsByLine]
    | cons b rest =>
      have ha : Closed a := h a (by simp)
      obtain ⟨ht, hd⟩ := ih (n + endLine a) (by simp) fun c hc => h c (by simp [hc])
      rw [String.intercalate_cons_cons, tokens_append_newline ha, diagnostics_append_newline ha, List.map_append,
        List.map_append, Token.map_addLines_addLines, Diagnostic.map_addLines_addLines, ht, hd]
      exact ⟨rfl, rfl⟩

/-- A closed text and a second one joined by a line feed are scanned as each of them alone: the tokens of the first without
the end of the input and then those of the second, the faults of both, and the second as many lines further down as the line
that the first ends on. So a text may be scanned line by line. -/
theorem scan_joined :
    (∀ a b : String, Closed a → ∃ last, (tokens a).getLast? = some last ∧ last.IsEnd ∧
      tokens (a ++ "\n" ++ b) = (tokens a).dropLast ++ (tokens b).map (Token.addLines last.line) ∧
      diagnostics (a ++ "\n" ++ b) = diagnostics a ++ (diagnostics b).map (Diagnostic.addLines last.line)) ∧
    (∀ lines : List String, lines ≠ [] → (∀ a ∈ lines.dropLast, Closed a) →
      tokens ("\n".intercalate lines) = tokensByLine 0 lines ∧
      diagnostics ("\n".intercalate lines) = diagnosticsByLine 0 lines) := by
  refine ⟨?_, ?_⟩
  · intro a b h
    refine ⟨_, ?_, Token.isEnd_endOfInput (endLine a), tokens_append_newline h b, diagnostics_append_newline h b⟩
    rw [tokens, List.getLast?_concat]
  · intro lines hne h
    have h0 := scan_intercalate 0 hne h
    have ht : Token.addLines 0 = id := by
      funext t
      simp [Token.addLines]
    have hd : Diagnostic.addLines 0 = id := by
      funext d
      simp [Diagnostic.addLines]
    rwa [ht, hd, List.map_id, List.map_id] at h0

/-- A number with a point behind it and a comment up to the end of the line, joined with digits and a text in quotes, and then
with a comment that has no end. -/
theorem scan_joined_behind_comment :
    (Closed "1. // \"" ∧ ∃ last, (tokens "1. // \"").getLast? = some last ∧ last.IsEnd ∧
      tokens ("1. // \"" ++ "\n" ++ "5 \"a\nb\" #") =
        (tokens "1. // \"").dropLast ++ (tokens "5 \"a\nb\" #").map (Token.addLines last.line) ∧
      diagnostics ("1. // \"" ++ "\n" ++ "5 \"a\nb\" #") =
        diagnostics "1. // \"" ++ (diagnostics "5 \"a\nb\" #").map (Diagnostic.addLines last.line)) ∧
    (∀ a ∈ ["1. // \"", "5 \"a\nb\" #", "/*"].dropLast, Closed a) ∧
      tokens ("\n".intercalate ["1. // \"", "5 \"a\nb\" #", "/*"]) = tokensByLine 0 ["1. // \"", "5 \"a\nb\" #", "/*"] ∧
      diagnostics ("\n".intercalate ["1. // \"", "5 \"a\nb\" #", "/*"]) =
        diagnosticsByLine 0 ["1. // \"", "5 \"a\nb\" #", "/*"] := by
  have hpair : Closed "1. // \"" := by decide +kernel
  have hlines : ∀ a ∈ ["1. // \"", "5 \"a\nb\" #", "/*"].dropLast, Closed a := by decide +kernel
  exact ⟨⟨hpair, scan_joined.1 _ _ hpair⟩, hlines, scan_joined.2 _ (by simp) hlines⟩

end Loxeme
