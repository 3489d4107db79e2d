import Loxeme.Proofs.Lines

/-!
# Where a scan finds what it tells of

Everything that a scan tells of is told of a text in the source: a token of its lexeme, a stray character of that character, and
what has no end of all that is left. `located` has these texts with the number of characters in front of each. They stand in the
source one behind the other, and all that a scan tells of is among it but for the end of the input (`locates_located`).
-/

namespace Loxeme

/-- What a scan tells of, with the text that it is told of. -/
structure Located where
  /-- The number of characters in front of the text. -/
  start : Nat
  /-- The text. -/
  text : List Char
  /-- What is told of it. -/
  event : Event
  deriving DecidableEq, Repr

/-- The number of characters up to the end of the text. -/
def Located.stop (l : Located) : Nat := l.start + l.text.length

/-- What is told of a text in a source. -/
structure Located.In (source : String) (l : Located) : Prop where
  /-- The text begins in the source where it is said to. -/
  stands : ∃ before after, source.toList = before ++ l.text ++ after ∧ before.length = l.start
  /-- A token is told of its lexeme. -/
  token : ∀ t, l.event = .token t → t.lexeme.toList = l.text
  /-- A stray character is told of itself. -/
  stray : ∀ c line, l.event = .fault ⟨.unexpectedCharacter c, line⟩ → l.text = [c]
  /-- What has no end is told of the source up to its end, and nothing else is. -/
  unterminated : ∀ d, l.event = .fault d → (∀ c, d.fault ≠ .unexpectedCharacter c) → d.fault.Unterminated ∧ l.stop = source.length

/-- What is told of a segment, with its text. -/
def Occurrence.located? (o : Occurrence) : Option Located := o.event?.map fun e => ⟨o.before.length, o.segment.text, e⟩

/-- What is told of segments that begin behind the text `before`. -/
def locatedFrom (before : List Char) (l : List Segment) : List Located := (occurrences before l).filterMap Occurrence.located?

/-- Everything that a scan tells of, in order, with the texts that it is told of. -/
def located (source : String) : List Located := locatedFrom [] (segments source.toList)

/-- Everything that a scan tells of a source, with the texts in it. -/
structure Locates (source : String) (l : List Located) : Prop where
  /-- These are all the tokens but the one for the end of the input, which has no text. -/
  tokens_eq : tokens source = l.filterMap (fun a => a.event.token?) ++ [.endOfInput (endLine source)]
  /-- These are all the diagnostics. -/
  diagnostics_eq : diagnostics source = l.filterMap (fun a => a.event.diagnostic?)
  /-- Each is told of its text. -/
  stand : ∀ a ∈ l, a.In source
  /-- The texts stand one behind the other. -/
  inOrder : l.Pairwise (fun a b => a.stop ≤ b.start)

theorem event_located (source : String) : (located source).map Located.event = events source := by
  rw [events_eq_occurrences, located, locatedFrom, List.map_filterMap]
  congr 1
  funext o
  cases h : o.event? <;> simp [Occurrence.located?, h]

/-- What is told of the first of segments, and then what is told of the others. -/
theorem locatedFrom_cons (before : List Char) (s : Segment) (l : List Segment) :
    locatedFrom before (s :: l) =
      (Occurrence.located? ⟨before, s, l.flatMap Segment.text⟩).toList ++ locatedFrom (before ++ s.text) l := by
  rw [locatedFrom, occurrences, List.filterMap_cons]
  cases h : Occurrence.located? ⟨before, s, l.flatMap Segment.text⟩ <;> rfl

theorem mem_locatedFrom_cons {before : List Char} {s : Segment} {l : List Segment} {a : Located} :
    a ∈ locatedFrom before (s :: l) ↔
      Occurrence.located? ⟨before, s, l.flatMap Segment.text⟩ = some a ∨ a ∈ locatedFrom (before ++ s.text) l := by
  rw [locatedFrom_cons, List.mem_append, Option.mem_toList]

/-- What is told of a segment is told of its text, which begins where the segment does. -/
theorem Occurrence.located?_eq_some {o : Occurrence} {a : Located} (h : o.located? = some a) :
    a.start = o.before.length ∧ a.text = o.segment.text ∧ o.event? = some a.event := by
  obtain ⟨e, he, rfl⟩ := Option.map_eq_some_iff.1 h
  exact ⟨rfl, rfl, he⟩

/-- Nothing is told of in front of the segments. -/
theorem le_start_of_mem {before : List Char} {l : List Segment} {a : Located} (h : a ∈ locatedFrom before l) :
    before.length ≤ a.start := by
  induction l generalizing before with
  | nil => cases h
  | cons s rest ih =>
    rcases mem_locatedFrom_cons.1 h with h | h
    · rw [(Occurrence.located?_eq_some h).1]
    · have hle := ih h
      rw [List.length_append] at hle
      omega

/-- The texts stand one behind the other. -/
theorem pairwise_locatedFrom (before : List Char) (l : List Segment) :
    (locatedFrom before l).Pairwise (fun a b => a.stop ≤ b.start) := by
  induction l generalizing before with
  | nil => exact List.Pairwise.nil
  | cons s rest ih =>
    rw [locatedFrom_cons, List.pairwise_append]
    refine ⟨?_, ih _, ?_⟩
    · cases Occurrence.located? ⟨before, s, rest.flatMap Segment.text⟩ <;> simp
    · intro a ha b hb
      obtain ⟨hstart, htext, -⟩ := Occurrence.located?_eq_some (Option.mem_toList.1 ha)
      have hle := le_start_of_mem hb
      rw [List.length_append] at hle
      rwa [Located.stop, hstart, htext]

/-! ## What is told of is told of its text -/

namespace Occurrence

/-- A token is told of what a segment yields, its line that of the last character. -/
theorem yield_of_token {o : Occurrence} {t : Token} (h : o.event? = some (.token t)) :
    o.segment.yield = .token t.kind t.literal ∧ t.lexeme = String.ofList o.segment.text ∧
      t.line = 1 + newlines (o.before ++ o.segment.text) := by
  unfold event? at h
  split at h
  · cases h
  · next hy =>
    cases h
    exact ⟨hy, rfl, rfl⟩
  · cases h
  · cases h

/-- A fault is told of a stray character, its line that of the character, or of all the source that is left, its line the last one
of the source. -/
theorem fault_of_event? {o : Occurrence} {d : Diagnostic} (hfirst : FirstSegment (o.segment.text ++ o.after) o.segment)
    (h : o.event? = some (.fault d)) :
    (∃ c, d.fault = .unexpectedCharacter c ∧ o.segment.text = [c] ∧ ¬ Blank c ∧ d.line = 1 + newlines o.before) ∨
      (d.fault.Unterminated ∧ o.after = [] ∧ d.line = 1 + newlines o.source) := by
  unfold event? at h
  split at h
  · cases h
  · cases h
  · next c hy =>
    cases h
    obtain ⟨ht, hb⟩ := hfirst.eq_stray hy
    exact Or.inl ⟨c, rfl, ht, hb, rfl⟩
  · next f hne hy =>
    cases h
    rcases hfirst.stray_or_unterminated hy with ⟨c, rfl, -⟩ | ⟨hu, ht⟩
    · exact absurd rfl (hne c)
    · exact Or.inr ⟨hu, by simpa using ht, rfl⟩

end Occurrence

theorem mem_tokens_iff {source : String} {t : Token} :
    t ∈ tokens source ↔ .token t ∈ events source ∨ t = .endOfInput (endLine source) := by
  rw [tokens, List.mem_append, List.mem_singleton, List.mem_filterMap]
  refine or_congr_left ⟨?_, fun h => ⟨_, h, rfl⟩⟩
  rintro ⟨e, he, ht⟩
  cases e with
  | token t' => exact Option.some.inj ht ▸ he
  | fault d => cases ht

theorem mem_diagnostics_iff {source : String} {d : Diagnostic} : d ∈ diagnostics source ↔ .fault d ∈ events source := by
  rw [diagnostics, List.mem_filterMap]
  refine ⟨?_, fun h => ⟨_, h, rfl⟩⟩
  rintro ⟨e, he, hd⟩
  cases e with
  | token t => cases hd
  | fault d' => exact Option.some.inj hd ▸ he

/-- A segment is the first one of the source from it on. -/
theorem Segmented.firstSegment_of_mem {before r : List Char} {l : List Segment} (h : Segmented r l) {o : Occurrence}
    (ho : o ∈ occurrences before l) : FirstSegment (o.segment.text ++ o.after) o.segment := by
  induction h generalizing before with
  | nil => cases ho
  | @cons s rest l hfirst hseg ih =>
    rcases List.mem_cons.1 ho with rfl | ho
    · rwa [hseg.text_eq]
    · exact ih ho

/-- What is told of a segment is told of its text. -/
theorem Occurrence.in_of_located? {source : String} {o : Occurrence} {a : Located} (hsource : o.source = source.toList)
    (hfirst : FirstSegment (o.segment.text ++ o.after) o.segment) (h : o.located? = some a) : a.In source := by
  obtain ⟨hstart, htext, hevent⟩ := Occurrence.located?_eq_some h
  refine ⟨⟨o.before, o.after, by rw [htext, ← hsource]; rfl, hstart.symm⟩, ?_, ?_, ?_⟩
  · intro t ht
    obtain ⟨-, hlexeme, -⟩ := Occurrence.yield_of_token (ht ▸ hevent)
    rw [hlexeme, String.toList_ofList, htext]
  · intro c line hc
    rcases Occurrence.fault_of_event? hfirst (hc ▸ hevent) with ⟨d, hd, ht, -⟩ | ⟨hu, -⟩
    · cases hd
      rw [htext, ht]
    · exact absurd hu (Fault.not_unterminated_stray c)
  · intro d hd hne
    rcases Occurrence.fault_of_event? hfirst (hd ▸ hevent) with ⟨c, hc, -⟩ | ⟨hu, hafter, -⟩
    · exact absurd hc (hne c)
    · refine ⟨hu, ?_⟩
      rw [Located.stop, hstart, htext, ← String.length_toList, ← hsource, Occurrence.source, hafter]
      simp

/-- A segment where it occurs in a source is the first one of the source from there on. -/
theorem Occurrence.of_mem {source : String} {o : Occurrence} (h : o ∈ occurrences [] (segments source.toList)) :
    o.source = source.toList ∧ FirstSegment (o.segment.text ++ o.after) o.segment := by
  refine ⟨?_, (segmented_segments _).firstSegment_of_mem h⟩
  rw [source_of_mem_occurrences h, text_segments, List.nil_append]

theorem in_of_mem_located {source : String} {a : Located} (h : a ∈ located source) : a.In source := by
  obtain ⟨o, ho, hoa⟩ := List.mem_filterMap.1 h
  obtain ⟨hsource, hfirst⟩ := Occurrence.of_mem ho
  exact Occurrence.in_of_located? hsource hfirst hoa

/-- A scan tells of nothing that has no text. -/
theorem locates_located (source : String) : Locates source (located source) where
  tokens_eq := by rw [tokens, ← event_located, List.filterMap_map]; rfl
  diagnostics_eq := by rw [diagnostics, ← event_located, List.filterMap_map]; rfl
  stand := fun _ ha => in_of_mem_located ha
  inOrder := pairwise_locatedFrom [] _

/-- What a scan tells of is told of a segment of the source. -/
theorem exists_occurrence {source : String} {e : Event} (h : e ∈ events source) :
    ∃ o : Occurrence, o.source = source.toList ∧ FirstSegment (o.segment.text ++ o.after) o.segment ∧ o.event? = some e := by
  rw [events_eq_occurrences] at h
  obtain ⟨o, ho, he⟩ := List.mem_filterMap.1 h
  obtain ⟨hsource, hfirst⟩ := Occurrence.of_mem ho
  exact ⟨o, hsource, hfirst, he⟩

end Loxeme
