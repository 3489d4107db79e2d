import Mathlib.Data.List.Forall2
import Loxeme.Proofs.Following
import Loxeme.Proofs.Lines

/-!
# Stray characters as blanks

A scan goes on behind a stray character as it goes on behind a blank. When every stray character of a source is replaced by a
blank, no segment in front of one reaches further than before (`Stops.of_blanked`), and none loses its end, so each segment
stays what it is but for the stray ones, which become blanks (`Segmented.blanked`).
-/

namespace Loxeme

/-- The character that a fault is about, if it is one that begins nothing. -/
def Fault.stray? : Fault → Option Char
  | unexpectedCharacter c => some c
  | _ => none

/-- Whether a segment is a character that begins nothing. -/
def Segment.isStray (s : Segment) : Bool := (s.fault?.bind Fault.stray?).isSome

/-- Whether what is told of is a stray character. -/
def Event.isStray : Event → Bool
  | token _ => false
  | fault d => d.fault.stray?.isSome

@[simp] theorem Event.isStray_token (t : Token) : (Event.token t).isStray = false := rfl

@[simp] theorem Event.isStray_fault (d : Diagnostic) : (Event.fault d).isStray = d.fault.stray?.isSome := rfl

/-- The places of the stray characters among segments that begin behind the text `before`, each the number of characters in
front of it. -/
def strayPlacesFrom (before : List Char) (l : List Segment) : List Nat :=
  ((occurrences before l).filter fun o => o.segment.isStray).map fun o => o.before.length

/-- The places of the stray characters of a source. -/
def strayPlaces (source : String) : List Nat := strayPlacesFrom [] (segments source.toList)

/-- The source with a space in each place where a stray character is. -/
def blankStrays (source : String) : String :=
  String.ofList (source.toList.mapIdx fun i c => if i ∈ strayPlaces source then ' ' else c)

example : blankStrays "\"#\" #1.@ // #" = "\"#\"  1.  // #" := by decide +kernel

/-! ## The text with blanks -/

/-- A segment with a space for a stray character. -/
def Segment.blanked (s : Segment) : Segment := if s.isStray then ⟨[' '], .nothing⟩ else s

theorem Segment.blanked_of_isStray {s : Segment} (h : s.isStray = true) : s.blanked = ⟨[' '], .nothing⟩ := if_pos h

theorem Segment.blanked_of_not_isStray {s : Segment} (h : s.isStray = false) : s.blanked = s := by
  rw [Segment.blanked, h]
  rfl

/-- A segment that is a stray character yields the fault and is that character, which is no blank. -/
theorem FirstSegment.exists_of_isStray {r : List Char} {s : Segment} (h : FirstSegment r s) (hs : s.isStray = true) :
    ∃ c, s = ⟨[c], .fault (.unexpectedCharacter c)⟩ ∧ ¬ Blank c := by
  cases h with
  | @stray c t hr ho => exact ⟨c, rfl, not_blank_of_not_opens (hr ▸ ho)⟩
  | _ => cases hs

theorem strayPlacesFrom_cons (before : List Char) (s : Segment) (l : List Segment) :
    strayPlacesFrom before (s :: l) =
      (if s.isStray then [before.length] else []) ++ strayPlacesFrom (before ++ s.text) l := by
  cases hs : s.isStray <;> simp [strayPlacesFrom, occurrences, hs]

theorem mem_strayPlacesFrom_cons {before : List Char} {s : Segment} {l : List Segment} {i : Nat} :
    i ∈ strayPlacesFrom before (s :: l) ↔
      (s.isStray = true ∧ i = before.length) ∨ i ∈ strayPlacesFrom (before ++ s.text) l := by
  rw [strayPlacesFrom_cons, List.mem_append]
  cases s.isStray <;> simp

/-- No place is in front of where the segments begin. -/
theorem le_of_mem_strayPlacesFrom {before : List Char} {l : List Segment} {i : Nat} (h : i ∈ strayPlacesFrom before l) :
    before.length ≤ i := by
  induction l generalizing before with
  | nil => cases h
  | cons s rest ih =>
    rcases mem_strayPlacesFrom_cons.1 h with ⟨-, rfl⟩ | h
    · exact Nat.le_refl _
    · have hle := ih h
      rw [List.length_append] at hle
      omega

/-- Spaces in the places of stray characters change the text of the first segment if it is stray itself, and not otherwise. -/
theorem FirstSegment.mapIdx_text {before rest : List Char} {s : Segment} (h : FirstSegment (s.text ++ rest) s)
    (l : List Segment) :
    s.text.mapIdx (fun i c => if before.length + i ∈ strayPlacesFrom before (s :: l) then ' ' else c) = s.blanked.text := by
  cases hs : s.isStray with
  | true =>
    obtain ⟨c, rfl, -⟩ := h.exists_of_isStray hs
    have hmem := mem_strayPlacesFrom_cons (l := l).2 (Or.inl ⟨hs, rfl⟩ : _ ∧ before.length = before.length ∨ _)
    simp [Segment.blanked_of_isStray hs, hmem]
  | false =>
    rw [Segment.blanked_of_not_isStray hs]
    refine List.ext_getElem (by simp) ?_
    intro i hi hi'
    rw [List.getElem_mapIdx, if_neg]
    intro hmem
    rcases mem_strayPlacesFrom_cons.1 hmem with ⟨hs', -⟩ | hmem
    · rw [hs] at hs'
      cases hs'
    · have hle := le_of_mem_strayPlacesFrom hmem
      rw [List.length_append] at hle
      omega

/-- The text with spaces in the places of its stray characters is made of its segments with spaces for the stray ones. -/
theorem Segmented.mapIdx_text {r : List Char} {l : List Segment} (h : Segmented r l) (before : List Char) :
    r.mapIdx (fun i c => if before.length + i ∈ strayPlacesFrom before l then ' ' else c) =
      l.flatMap fun s => s.blanked.text := by
  induction h generalizing before with
  | nil => rfl
  | @cons s rest l hfirst _ ih =>
    rw [List.mapIdx_append, hfirst.mapIdx_text, List.flatMap_cons, ← ih (before ++ s.text)]
    congr 1
    rw [List.mapIdx_eq_mapIdx_iff]
    intro i hi
    -- behind the first segment its own place plays no part
    have hplace : before.length + (i + s.text.length) ∈ strayPlacesFrom before (s :: l) ↔
        (before ++ s.text).length + i ∈ strayPlacesFrom (before ++ s.text) l := by
      rw [mem_strayPlacesFrom_cons, List.length_append, Nat.add_assoc, Nat.add_comm i]
      refine or_iff_right ?_
      rintro ⟨hs, he⟩
      obtain ⟨c, rfl, -⟩ := hfirst.exists_of_isStray hs
      simp at he
    simp only [hplace]

theorem toList_blankStrays (source : String) :
    (blankStrays source).toList = (segments source.toList).flatMap fun s => s.blanked.text := by
  have h := (segmented_segments source.toList).mapIdx_text []
  simp only [List.length_nil, Nat.zero_add] at h
  rw [blankStrays, String.toList_ofList, ← h]
  rfl

/-! ## The segments of the text with blanks -/

/-- A character stays what it is, or it is no blank and becomes a space. -/
def BlankedChar (c d : Char) : Prop := d = c ∨ (¬ Blank c ∧ d = ' ')

theorem Segmented.forall₂_blanked {r : List Char} {l : List Segment} (h : Segmented r l) :
    List.Forall₂ BlankedChar r (l.flatMap fun s => s.blanked.text) := by
  induction h with
  | nil => exact List.Forall₂.nil
  | @cons s rest l hfirst _ ih =>
    rw [List.flatMap_cons]
    refine List.rel_append ?_ ih
    cases hs : s.isStray with
    | true =>
      obtain ⟨c, rfl, hb⟩ := hfirst.exists_of_isStray hs
      rw [Segment.blanked_of_isStray hs]
      exact List.Forall₂.cons (Or.inr ⟨hb, rfl⟩) List.Forall₂.nil
    | false =>
      rw [Segment.blanked_of_not_isStray hs]
      exact List.forall₂_same.2 fun c _ => Or.inl rfl

/-- A beginning without blanks is a beginning of the text before spaces were put into it. -/
theorem begins_of_blanked {r r' v : List Char} (h : List.Forall₂ BlankedChar r r') (hv : v <+: r')
    (hb : ∀ c ∈ v, ¬ Blank c) : v <+: r := by
  induction h generalizing v with
  | nil => exact hv
  | @cons c d r r' hcd _ ih =>
    rcases List.prefix_cons_iff.1 hv with rfl | ⟨w, rfl, hw⟩
    · exact List.nil_prefix
    · rcases hcd with rfl | ⟨-, rfl⟩
      · exact List.cons_prefix_cons.2 ⟨rfl, ih hw fun e he => hb e (by simp [he])⟩
      · exact absurd blank_space (hb ' ' (by simp))

/-- What stops before a text stops before it with spaces put into it. -/
theorem Stops.of_blanked {text r r' : List Char} (h : Stops text r) (hr : List.Forall₂ BlankedChar r r') : Stops text r' where
  line := by
    intro hp d hd
    cases hr with
    | nil => cases hd
    | @cons c _ _ _ hcd =>
      obtain rfl := Option.some.inj hd
      have hc := h.line hp c rfl
      rcases hcd with rfl | ⟨hb, -⟩
      · exact hc
      · exact absurd hc (ne_newline_of_not_blank hb)
  slash := by
    intro ht d hd
    cases hr with
    | nil => cases hd
    | @cons c _ _ _ hcd =>
      obtain rfl := Option.some.inj hd
      rcases hcd with rfl | ⟨-, rfl⟩
      · exact h.slash ht _ rfl
      · decide
  lexeme := by
    intro v hv hl
    refine h.lexeme v (begins_of_blanked hr hv ?_) hl
    intro c hc
    exact hl.not_blank c (List.mem_append_right text hc)

/-- A text with spaces for its stray characters has the same segments, with a blank for each stray character. -/
theorem Segmented.blanked {r : List Char} {l : List Segment} (h : Segmented r l) :
    Segmented (l.flatMap fun s => s.blanked.text) (l.map Segment.blanked) := by
  induction h with
  | nil => exact Segmented.nil
  | @cons s rest l hfirst hseg ih =>
    rw [List.flatMap_cons, List.map_cons]
    refine Segmented.cons ?_ ih
    cases hs : s.isStray with
    | true =>
      rw [Segment.blanked_of_isStray hs]
      exact FirstSegment.blank rfl blank_space
    | false =>
      rw [Segment.blanked_of_not_isStray hs]
      by_cases ho : s.Open
      · obtain rfl := hfirst.eq_nil_of_open ho
        obtain rfl : l = [] := by rw [segmented_iff.1 hseg, segments_nil]
        exact hfirst
      · exact hfirst.of_stops ho (hfirst.stops.of_blanked hseg.forall₂_blanked)

theorem segments_blankStrays (source : String) :
    segments (blankStrays source).toList = (segments source.toList).map Segment.blanked := by
  rw [toList_blankStrays]
  exact (segmented_iff.1 (segmented_segments source.toList).blanked).symm

/-! ## What is told of the text with blanks -/

theorem newlines_blanked {r : List Char} {s : Segment} (h : FirstSegment r s) : newlines s.blanked.text = newlines s.text := by
  cases hs : s.isStray with
  | true =>
    obtain ⟨c, rfl, hb⟩ := h.exists_of_isStray hs
    simp [Segment.blanked_of_isStray hs, newlines_cons, ne_newline_of_not_blank hb]
  | false => rw [Segment.blanked_of_not_isStray hs]

/-- Of segments with blanks for the stray ones everything is told but the stray characters, on the same lines. -/
theorem told_blanked {r : List Char} {l : List Segment} (h : Segmented r l) {p q : Position} (hline : p.line = q.line) :
    (place p (l.map Segment.blanked)).filterMap Placed.event? =
      ((place q l).filterMap Placed.event?).filter (fun e => !e.isStray) := by
  induction h generalizing p q with
  | nil => rfl
  | @cons s rest l hfirst _ ih =>
    have hadv : (p.advance s.blanked.text).line = (q.advance s.text).line := by
      simp [Position.advance, hline, newlines_blanked hfirst]
    have hrest := ih hadv
    rw [List.map_cons, place, place, List.filterMap_cons, List.filterMap_cons, hrest]
    cases hs : s.isStray with
    | true =>
      rw [Segment.blanked_of_isStray hs]
      obtain ⟨c, rfl, -⟩ := hfirst.exists_of_isStray hs
      simp [Placed.event?, Fault.stray?]
    | false =>
      rw [Segment.blanked_of_not_isStray hs] at hadv ⊢
      cases hy : s.yield with
      | nothing => simp [Placed.event?, hy]
      | token kind literal => simp [Placed.event?, hy, hadv]
      | fault f =>
        have hf : f.stray? = none := by simpa [Segment.isStray, Segment.fault?, hy] using hs
        simp [Placed.event?, hy, hadv, hf]

theorem events_blankStrays (source : String) :
    events (blankStrays source) = (events source).filter (fun e => !e.isStray) := by
  rw [events, placedSegments, segments_blankStrays]
  exact told_blanked (segmented_segments _) rfl

theorem newlines_flatMap_blanked {r : List Char} {l : List Segment} (h : Segmented r l) :
    newlines (l.flatMap fun s => s.blanked.text) = newlines r := by
  induction h with
  | nil => rfl
  | cons hfirst _ ih => rw [List.flatMap_cons, newlines_append, newlines_append, newlines_blanked hfirst, ih]

theorem endLine_blankStrays (source : String) : endLine (blankStrays source) = endLine source := by
  rw [endLine_eq, endLine_eq, toList_blankStrays, newlines_flatMap_blanked (segmented_segments source.toList)]

/-- The characters in the places of stray characters are those that the faults are about, in their order. -/
theorem getElem?_strayPlacesFrom {r : List Char} {l : List Segment} (h : Segmented r l) (before : List Char) :
    (strayPlacesFrom before l).map (fun i => (before ++ r)[i]?) =
      ((l.filterMap Segment.fault?).filterMap Fault.stray?).map some := by
  induction h generalizing before with
  | nil => rfl
  | @cons s rest l hfirst _ ih =>
    have hrest := ih (before ++ s.text)
    rw [List.append_assoc] at hrest
    rw [strayPlacesFrom_cons, List.map_append, hrest, List.filterMap_cons]
    cases hs : s.isStray with
    | true =>
      obtain ⟨c, rfl, -⟩ := hfirst.exists_of_isStray hs
      simp [Segment.fault?, Fault.stray?]
    | false =>
      cases hf : s.fault? with
      | none => simp
      | some f =>
        have hstray : f.stray? = none := by simpa [Segment.isStray, hf] using hs
        simp [hstray]

/-- The places of stray characters are in order, no two of them the same. -/
theorem Segmented.pairwise_strayPlacesFrom {before r : List Char} {l : List Segment} (h : Segmented r l) :
    (strayPlacesFrom before l).Pairwise (· < ·) := by
  induction h generalizing before with
  | nil => exact List.Pairwise.nil
  | @cons s rest l hfirst _ ih =>
    rw [strayPlacesFrom_cons]
    cases hs : s.isStray with
    | true =>
      obtain ⟨c, rfl, -⟩ := hfirst.exists_of_isStray hs
      refine List.pairwise_cons.2 ⟨?_, ih⟩
      intro i hi
      have hle := le_of_mem_strayPlacesFrom hi
      rw [List.length_append, List.length_singleton] at hle
      omega
    | false => exact ih

/-! ## Two scans -/

theorem filterMap_token?_filter (l : List Event) :
    (l.filter fun e => !e.isStray).filterMap Event.token? = l.filterMap Event.token? := by
  rw [List.filterMap_filter]
  congr 1
  funext e
  cases e with
  | token t => rfl
  | fault d => exact ite_self _

theorem filterMap_diagnostic?_filter (l : List Event) :
    (l.filter fun e => !e.isStray).filterMap Event.diagnostic? =
      (l.filterMap Event.diagnostic?).filter fun d => d.fault.stray?.isNone := by
  induction l with
  | nil => rfl
  | cons e l ih =>
    cases e with
    | token t => exact ih
    | fault d => cases hd : d.fault.stray? <;> simp [Event.diagnostic?, hd, ih]

/-- A source and the same source with a space in the place of each stray character that a scan finds have the same tokens,
lines and the end of the input included, and the same faults but for the stray characters. The places replaced are as many as
the stray characters found, in their order, and each of them held the character that was found. -/
theorem scan_blankStrays (source : String) :
    (strayPlaces source).Pairwise (· < ·) ∧
      (strayPlaces source).map (fun i => source.toList[i]?) =
        ((diagnostics source).filterMap fun d => d.fault.stray?).map some ∧
      tokens (blankStrays source) = tokens source ∧
      diagnostics (blankStrays source) = (diagnostics source).filter fun d => d.fault.stray?.isNone := by
  have hseg := segmented_segments source.toList
  refine ⟨hseg.pairwise_strayPlacesFrom, ?_, ?_, ?_⟩
  · have hfault := congrArg (List.filterMap Fault.stray?) (fault_diagnostics source)
    rw [List.filterMap_map] at hfault
    exact (getElem?_strayPlacesFrom hseg []).trans (congrArg (List.map some) hfault.symm)
  · rw [tokens, tokens, events_blankStrays, endLine_blankStrays, filterMap_token?_filter]
  · rw [diagnostics, diagnostics, events_blankStrays, filterMap_diagnostic?_filter]

end Loxeme
