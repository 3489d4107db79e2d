import Loxeme.Collector
import Loxeme.Proofs.Rule

/-!
# What a scan gives

`Segmented r l` says that the segments `l` make up the text `r` one behind the other, each the first segment of what is left.
A text has one segmentation only (`segmented_iff`), and a scan gives exactly what its segments yield, in their order, and one
token for the end of the input. Lines play no part here.
-/

namespace Loxeme

/-- A text as segments, each of them the first segment of the text from it on. -/
inductive Segmented : List Char → List Segment → Prop where
  | nil : Segmented [] []
  | cons {s : Segment} {rest : List Char} {l : List Segment} : FirstSegment (s.text ++ rest) s → Segmented rest l →
      Segmented (s.text ++ rest) (s :: l)

/-- What a token is apart from its line: its kind, its text and its value. -/
def Token.content (t : Token) : Kind × String × Option Literal := (t.kind, t.lexeme, t.literal)

/-- The token that a segment yields, apart from its line. -/
def Segment.content? (s : Segment) : Option (Kind × String × Option Literal) :=
  match s.yield with
  | .token kind literal => some (kind, String.ofList s.text, literal)
  | _ => none

/-- The fault that a segment yields. -/
def Segment.fault? (s : Segment) : Option Fault :=
  match s.yield with
  | .fault f => some f
  | _ => none

/-- What is told of a segment that stops on a line. -/
def Segment.event? (s : Segment) (line : Nat) : Option Event :=
  match s.yield with
  | .nothing => none
  | .token kind literal => some (.token ⟨kind, String.ofList s.text, literal, line⟩)
  | .fault f => some (.fault ⟨f, line⟩)

/-! ## The segmentation of a text -/

theorem segmented_segments (source : List Char) : Segmented source (segments source) := by
  fun_induction segments source with
  | case1 => exact Segmented.nil
  | case2 c t ih =>
    have happ := Segment.cut_append c t
    have hfirst := firstSegment_cut c t
    rw [← happ] at hfirst ⊢
    exact Segmented.cons hfirst ih

/-- A text has one segmentation, and a scan goes through it. -/
theorem segmented_iff {source : List Char} {l : List Segment} : Segmented source l ↔ l = segments source := by
  refine ⟨?_, fun h => h ▸ segmented_segments source⟩
  intro h
  induction h with
  | nil => rw [segments_nil]
  | @cons s rest l hfirst _ ih =>
    cases hr : s.text ++ rest with
    | nil =>
      rw [hr] at hfirst
      exact absurd hfirst (not_firstSegment_nil s)
    | cons c t =>
      rw [hr] at hfirst
      have hs := firstSegment_iff.1 hfirst
      have hrest : (Segment.cut c t).2 = rest := by
        have happ := Segment.cut_append c t
        rw [← hs, ← hr] at happ
        exact List.append_cancel_left happ
      rw [segments_cons, ← hs, hrest, ih]

/-! ## What the segments give -/

/-- What is told of the first of placed segments, and then what is told of the others. -/
theorem events_place_cons (p : Position) (s : Segment) (l : List Segment) :
    (place p (s :: l)).filterMap Placed.event? =
      (s.event? (p.advance s.text).line).toList ++ (place (p.advance s.text) l).filterMap Placed.event? := by
  cases hy : s.yield <;> simp [place, Placed.event?, Segment.event?, hy]

/-- The tokens of placed segments are those that the segments yield, wherever they are placed. -/
theorem content_place (p : Position) (l : List Segment) :
    (((place p l).filterMap Placed.event?).filterMap Event.token?).map Token.content = l.filterMap Segment.content? := by
  induction l generalizing p with
  | nil => rfl
  | cons s rest ih =>
    have h := ih (p.advance s.text)
    cases hy : s.yield <;>
      simp [place, Placed.event?, Event.token?, Segment.content?, Token.content, hy] at h ⊢ <;> exact h

/-- The faults of placed segments are those that the segments yield, wherever they are placed. -/
theorem fault_place (p : Position) (l : List Segment) :
    (((place p l).filterMap Placed.event?).filterMap Event.diagnostic?).map Diagnostic.fault =
      l.filterMap Segment.fault? := by
  induction l generalizing p with
  | nil => rfl
  | cons s rest ih =>
    have h := ih (p.advance s.text)
    cases hy : s.yield <;>
      simp [place, Placed.event?, Event.diagnostic?, Segment.fault?, hy] at h ⊢ <;> exact h

theorem content_tokens (source : String) :
    (tokens source).map Token.content =
      (segments source.toList).filterMap Segment.content? ++ [(.endOfInput, "", none)] := by
  rw [tokens, List.map_append, events, placedSegments, content_place]
  rfl

theorem fault_diagnostics (source : String) :
    (diagnostics source).map Diagnostic.fault = (segments source.toList).filterMap Segment.fault? := by
  rw [diagnostics, events, placedSegments, fault_place]

/-! ## The end of the input -/

/-- No lexeme stands for the end of the input. -/
theorem Lexeme.kind_ne_endOfInput {t : List Char} {k : Kind} {l : Option Literal} (h : Lexeme t k l) : k ≠ .endOfInput := by
  cases h with
  | symbol h => exact (by decide : ∀ p ∈ symbols, p.2 ≠ .endOfInput) _ h
  | whole _ => decide
  | pointed _ _ => decide
  | keyword k =>
    intro h
    cases h
  | name _ _ => decide

/-- No segment yields a token for the end of the input. -/
theorem FirstSegment.kind_ne_endOfInput {r : List Char} {s : Segment} {k : Kind} {l : Option Literal}
    (h : FirstSegment r s) (hs : s.yield = .token k l) : k ≠ .endOfInput := by
  cases h with
  | quoted =>
    obtain ⟨rfl, -⟩ := Yield.token.inj hs
    decide
  | lexeme _ _ hlex =>
    obtain ⟨rfl, -⟩ := Yield.token.inj hs
    exact hlex.kind_ne_endOfInput
  | _ => cases hs

/-- A segment of a source is the first segment of the source from it on. -/
theorem firstSegment_of_mem {source : List Char} {s : Segment} (h : s ∈ segments source) :
    ∃ rest, FirstSegment (s.text ++ rest) s := by
  have hseg := segmented_segments source
  generalize segments source = l at h hseg
  induction hseg with
  | nil => cases h
  | cons hfirst _ ih =>
    rcases List.mem_cons.1 h with rfl | h
    · exact ⟨_, hfirst⟩
    · exact ih h

/-- No diagnostic of a source is about digits that are no number. -/
theorem fault_ne_invalidNumber {source : String} {d : Diagnostic} (h : d ∈ diagnostics source) (lexeme : String) :
    d.fault ≠ .invalidNumber lexeme := by
  have hmem : d.fault ∈ (segments source.toList).filterMap Segment.fault? := fault_diagnostics source ▸ List.mem_map_of_mem h
  obtain ⟨s, hs, hf⟩ := List.mem_filterMap.1 hmem
  obtain ⟨rest, hfirst⟩ := firstSegment_of_mem hs
  unfold Segment.fault? at hf
  split at hf
  · next f hy =>
    rw [← Option.some.inj hf]
    rcases hfirst.stray_or_unterminated hy with ⟨c, rfl, -⟩ | ⟨hu, -⟩
    · exact Fault.noConfusion
    · rcases hu with rfl | rfl <;> exact Fault.noConfusion
  · cases hf

/-- None of the tokens that the segments of a source yield is one for the end of the input. -/
theorem kind_ne_endOfInput_of_mem {source : List Char} {x : Kind × String × Option Literal}
    (hx : x ∈ (segments source).filterMap Segment.content?) : x.1 ≠ .endOfInput := by
  obtain ⟨s, hs, hsx⟩ := List.mem_filterMap.1 hx
  obtain ⟨rest, hfirst⟩ := firstSegment_of_mem hs
  unfold Segment.content? at hsx
  split at hsx
  · next k l hy =>
    obtain rfl := Option.some.inj hsx
    exact hfirst.kind_ne_endOfInput hy
  · cases hsx

/-- Of the tokens of a source one is for the end of the input. -/
theorem countP_endOfInput_tokens (source : String) : (tokens source).countP (fun t => t.kind = .endOfInput) = 1 := by
  have hcount : (tokens source).countP (fun t => t.kind = .endOfInput) =
      ((tokens source).map Token.content).countP (fun x => x.1 = .endOfInput) := by
    rw [List.countP_map]
    rfl
  have hnone : ((segments source.toList).filterMap Segment.content?).countP (fun x => x.1 = .endOfInput) = 0 := by
    rw [List.countP_eq_zero]
    intro x hx
    have hne := kind_ne_endOfInput_of_mem hx
    simpa using hne
  rw [hcount, content_tokens, List.countP_append, hnone]
  rfl

/-- A source has exactly one segmentation. Its segments are not empty and make up the source, the tokens of a scan are those
that they yield and one more for the end of the input, and the faults that a new collector is given are those that they
yield, both in the order of the segments. -/
theorem scan_segmented (source : String) :
    ∃ l : List Segment, (∀ l', Segmented source.toList l' ↔ l' = l) ∧
      (∀ s ∈ l, s.text ≠ []) ∧ l.flatMap Segment.text = source.toList ∧
      (tokens source).map Token.content = l.filterMap Segment.content? ++ [(.endOfInput, "", none)] ∧
      (tokens source).countP (fun t => t.kind = .endOfInput) = 1 ∧
      (Collector.after {} (.scan source)).diagnostics.map Diagnostic.fault = l.filterMap Segment.fault? := by
  refine ⟨segments source.toList, ?_, ?_, text_segments _, content_tokens source, countP_endOfInput_tokens source,
    fault_diagnostics source⟩
  · intro l'
    exact segmented_iff
  · intro s hs
    exact text_ne_nil_of_mem_segments hs

end Loxeme
