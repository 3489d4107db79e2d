import Loxeme.Proofs.Segmentation

/-!
# Lines

Where the segments of a source stand, and on which line a scan tells of each. `Occurrence` is a segment between the text in
front of it and the text behind it, and `Occurrence.event?` says what is told of it, the line counted in the source itself: to
the end of a token, to the place of a stray character, to the end of the source where something has no end. A scan tells of
nothing else (`events_eq_occurrences`), so its lines never go back and never exceed the number of characters by more than one.
-/

namespace Loxeme

/-- A segment of a source between the text in front of it and the text behind it. -/
structure Occurrence where
  /-- The source up to the segment. -/
  before : List Char
  /-- The segment. -/
  segment : Segment
  /-- The source behind the segment. -/
  after : List Char

/-- The segments of a text that begins behind the text `before`. -/
def occurrences (before : List Char) : List Segment → List Occurrence
  | [] => []
  | s :: rest => ⟨before, s, rest.flatMap Segment.text⟩ :: occurrences (before ++ s.text) rest

namespace Occurrence

/-- The whole source. -/
def source (o : Occurrence) : List Char := o.before ++ o.segment.text ++ o.after

/-- What is told of a segment, with its line. -/
def event? (o : Occurrence) : Option Event :=
  match o.segment.yield with
  | .nothing => none
  | .token kind literal =>
    some (.token ⟨kind, String.ofList o.segment.text, literal, 1 + newlines (o.before ++ o.segment.text)⟩)
  | .fault (.unexpectedCharacter c) => some (.fault ⟨.unexpectedCharacter c, 1 + newlines o.before⟩)
  | .fault f => some (.fault ⟨f, 1 + newlines o.source⟩)

end Occurrence

/-- The line of what a scan tells of. -/
def Event.line : Event → Nat
  | token t => t.line
  | fault d => d.line

/-- The lines of everything that a scan tells of, in order, and of the end of the input. -/
def eventLines (source : String) : List Nat := (events source).map Event.line ++ [endLine source]

theorem segment_occurrences (before : List Char) (l : List Segment) : (occurrences before l).map Occurrence.segment = l := by
  induction l generalizing before with
  | nil => rfl
  | cons s rest ih => rw [occurrences, List.map_cons, ih]

/-- Every segment stands in the same source. -/
theorem source_of_mem_occurrences {before : List Char} {l : List Segment} {o : Occurrence} (h : o ∈ occurrences before l) :
    o.source = before ++ l.flatMap Segment.text := by
  induction l generalizing before with
  | nil => cases h
  | cons s rest ih =>
    rcases List.mem_cons.1 h with rfl | h
    · simp [Occurrence.source]
    · rw [ih h, List.flatMap_cons, List.append_assoc]

/-- The segments make up the text that they are the segmentation of. -/
theorem Segmented.text_eq {r : List Char} {l : List Segment} (h : Segmented r l) : l.flatMap Segment.text = r := by
  rw [segmented_iff.1 h, text_segments]

/-! ## The lines of a scan are those of the source -/

/-- A position on the line that the text in front of it gives stays on that line as it advances. -/
theorem line_advance {p : Position} {before : List Char} (hp : p.line = 1 + newlines before) (t : List Char) :
    (p.advance t).line = 1 + newlines (before ++ t) := by
  simp [Position.advance, hp, Nat.add_assoc]

/-- Where a segment is placed on the line of the text in front of it, what is told of it is told on the line that the source
gives: a stray character is no line feed, and behind an open segment nothing is left. -/
theorem event?_place {s : Segment} {p : Position} {before rest : List Char} (hs : FirstSegment (s.text ++ rest) s)
    (hp : p.line = 1 + newlines before) :
    Placed.event? ⟨p, p.advance s.text, s⟩ = Occurrence.event? ⟨before, s, rest⟩ := by
  have hadv := line_advance hp s.text
  unfold Placed.event? Occurrence.event?
  cases hy : s.yield with
  | nothing => rfl
  | token kind literal => simp only [hadv]
  | fault f =>
    rcases hs.stray_or_unterminated hy with ⟨c, rfl, ht, hb⟩ | ⟨hf, ht⟩
    · rw [ht] at hadv
      simp [hadv, ht, newlines_cons, ne_newline_of_not_blank hb]
    · have hrest : rest = [] := by simpa using ht
      rcases hf with rfl | rfl <;> simp [hadv, Occurrence.source, hrest]

/-- What placed segments tell of is what their occurrences tell of. -/
theorem filterMap_event?_place {r : List Char} {l : List Segment} (h : Segmented r l) {p : Position} {before : List Char}
    (hp : p.line = 1 + newlines before) :
    (place p l).filterMap Placed.event? = (occurrences before l).filterMap Occurrence.event? := by
  induction h generalizing p before with
  | nil => rfl
  | @cons s rest l hs hseg ih =>
    rw [place, occurrences, List.filterMap_cons, List.filterMap_cons, ih (line_advance hp s.text), event?_place hs hp,
      hseg.text_eq]

theorem events_eq_occurrences (source : String) :
    events source = (occurrences [] (segments source.toList)).filterMap Occurrence.event? :=
  filterMap_event?_place (segmented_segments _) rfl

/-! ## The lines of a scan do not go back -/

/-- The lines of everything that placed segments tell of, in order, and of the position behind them. -/
def linesFrom (p : Position) (l : List Segment) : List Nat :=
  ((place p l).filterMap Placed.event?).map Event.line ++ [(finish p l).line]

/-- A segment adds no line or the one it stops on. -/
theorem linesFrom_cons (p : Position) (s : Segment) (rest : List Segment) :
    linesFrom p (s :: rest) = linesFrom (p.advance s.text) rest ∨
      linesFrom p (s :: rest) = (p.advance s.text).line :: linesFrom (p.advance s.text) rest := by
  unfold linesFrom
  cases hy : s.yield with
  | nothing => exact Or.inl (by simp [place, finish, Placed.event?, hy])
  | token kind literal => exact Or.inr (by simp [place, finish, Placed.event?, Event.line, hy])
  | fault f => exact Or.inr (by simp [place, finish, Placed.event?, Event.line, hy])

/-- Nothing is told of on a line before the one that the segments begin on. -/
theorem le_of_mem_linesFrom {p : Position} {l : List Segment} {n : Nat} (h : n ∈ linesFrom p l) : p.line ≤ n := by
  induction l generalizing p with
  | nil =>
    obtain rfl : n = p.line := by simpa [linesFrom, place, finish] using h
    exact Nat.le_refl _
  | cons s rest ih =>
    have hle : p.line ≤ (p.advance s.text).line := Nat.le_add_right _ _
    rcases linesFrom_cons p s rest with he | he
    · exact hle.trans (ih (he ▸ h))
    · rw [he] at h
      rcases List.mem_cons.1 h with rfl | h
      · exact hle
      · exact hle.trans (ih h)

theorem pairwise_linesFrom (p : Position) (l : List Segment) : (linesFrom p l).Pairwise (· ≤ ·) := by
  induction l generalizing p with
  | nil => simp [linesFrom, place]
  | cons s rest ih =>
    rcases linesFrom_cons p s rest with he | he
    · rw [he]
      exact ih _
    · rw [he]
      exact List.pairwise_cons.2 ⟨fun n hn => le_of_mem_linesFrom hn, ih _⟩

/-- No line is beyond the one that the source ends on. -/
theorem le_endLine_of_mem {source : String} {n : Nat} (h : n ∈ eventLines source) : n ≤ endLine source := by
  have hp := pairwise_linesFrom {} (segments source.toList)
  rcases List.mem_append.1 h with hn | hn
  · exact (List.pairwise_append.1 hp).2.2 n hn _ (by simp; rfl)
  · exact Nat.le_of_eq (by simpa using hn)

/-- A text has no more characters than bytes. -/
theorem length_le_byteLength (t : List Char) : t.length ≤ byteLength t := by
  induction t with
  | nil => exact Nat.le_refl _
  | cons c t ih =>
    have hc := c.utf8Size_pos
    simp only [byteLength_cons, List.length_cons]
    omega

/-- No line exceeds the number of characters by more than one. -/
theorem le_length_of_mem_eventLines {source : String} {n : Nat} (h : n ∈ eventLines source) : n ≤ 1 + source.length := by
  have hle := le_endLine_of_mem h
  have hcount : newlines source.toList ≤ source.toList.length := List.count_le_length
  rw [endLine_eq] at hle
  rw [← String.length_toList]
  omega

/-- A stray character is the whole text of its segment. -/
theorem text_of_stray {source : List Char} {o : Occurrence} {c : Char} (ho : o ∈ occurrences [] (segments source))
    (hy : o.segment.yield = .fault (.unexpectedCharacter c)) : o.segment.text = [c] := by
  have hmem : o.segment ∈ segments source := by
    rw [← segment_occurrences [] (segments source)]
    exact List.mem_map_of_mem ho
  obtain ⟨rest, hs⟩ := firstSegment_of_mem hmem
  exact (hs.eq_stray hy).1

/-- What it means that the lines of a scan are exact: each is counted by the line feeds of the source in front of a place in it. -/
structure ExactLines (source : String) : Prop where
  /-- The segments, each with the text in front of it and the text behind it, are found in the source. -/
  source_eq : ∀ o ∈ occurrences [] (segments source.toList), o.source = source.toList
  /-- A stray character is the whole text of its segment. -/
  stray_eq : ∀ o ∈ occurrences [] (segments source.toList), ∀ c, o.segment.yield = .fault (.unexpectedCharacter c) →
    o.segment.text = [c]
  /-- What a scan tells of it tells of segments in their order. A token is on the line of its last character, a stray character on
  its own line, and what has no end on the last line of the source. -/
  events_eq : events source = (occurrences [] (segments source.toList)).filterMap Occurrence.event?
  /-- The tokens are those that it tells of, and one behind them for the end of the input, on the last line of the source. -/
  tokens_eq : ∃ last, tokens source = (events source).filterMap Event.token? ++ [last] ∧ last.IsEnd ∧
    last.line = 1 + newlines source.toList
  /-- The diagnostics are those that it tells of. -/
  diagnostics_eq : diagnostics source = (events source).filterMap Event.diagnostic?
  /-- The lines never go back. -/
  pairwise_le : (eventLines source).Pairwise (· ≤ ·)
  /-- None is zero, and none exceeds the number of characters by more than one. -/
  bounds : ∀ n ∈ eventLines source, 1 ≤ n ∧ n ≤ 1 + source.length
  /-- None is so great that a counter of 64 bits could not hold it. -/
  lt_size : byteLength source.toList + 1 < UInt64.size → ∀ n ∈ eventLines source, n < UInt64.size

/-- The lines of a scan are exact. -/
theorem line_exact (source : String) : ExactLines source where
  source_eq := by
    intro o ho
    rw [source_of_mem_occurrences ho, text_segments, List.nil_append]
  stray_eq := fun _ ho _ hy => text_of_stray ho hy
  events_eq := events_eq_occurrences source
  tokens_eq := by
    refine ⟨.endOfInput (endLine source), rfl, Token.isEnd_endOfInput _, ?_⟩
    rw [Token.line_endOfInput, endLine_eq]
  diagnostics_eq := rfl
  pairwise_le := pairwise_linesFrom _ _
  bounds := fun _ hn => ⟨le_of_mem_linesFrom (p := {}) hn, le_length_of_mem_eventLines hn⟩
  lt_size := by
    intro hsize n hn
    have hle := le_length_of_mem_eventLines hn
    have hlen := length_le_byteLength source.toList
    rw [String.length_toList] at hlen
    omega

/-- The lines of a text in quotes over two lines, a stray character behind it and a comment without its end. -/
theorem line_exact_open_comment :
    byteLength "\"a\nb\" #\n/*\n".toList + 1 < UInt64.size ∧ ∀ n ∈ eventLines "\"a\nb\" #\n/*\n", n < UInt64.size := by
  have h : byteLength "\"a\nb\" #\n/*\n".toList + 1 < UInt64.size := by decide
  exact ⟨h, (line_exact _).lt_size h⟩

end Loxeme
