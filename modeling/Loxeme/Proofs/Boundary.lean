import Loxeme.Proofs.Segmentation

/-!
# The boundary behind a segment

What may follow a segment without changing it. A token keeps its text where nothing or a blank follows, since no lexeme
contains a blank, and every segment that has an end keeps its text where a line feed follows, since a line feed also ends the
comments that run to the end of their line (`FirstSegment.append`).
-/

namespace Loxeme

/-- A text that is empty or begins with a blank: what stands in front of it does not reach into it. -/
def Apart (q : List Char) : Prop := ∀ c ∈ q.head?, Blank c

theorem apart_nil : Apart [] := by
  intro c hc
  cases hc

theorem apart_cons {c : Char} (hc : Blank c) (q : List Char) : Apart (c :: q) := by
  intro d hd
  obtain rfl : c = d := by simpa using hd
  exact hc

/-- A text that opens nothing opens nothing with something else behind its first segment, if that stands apart. -/
theorem not_opens_append {text rest q : List Char} (hne : text ≠ []) (ho : ¬ Opens (text ++ rest)) (hq : Apart q) :
    ¬ Opens (text ++ q) := by
  obtain ⟨a, u, rfl⟩ := List.exists_cons_of_ne_nil hne
  -- of the characters that open something together, the second is in the text or is the first of `q`, which is a blank
  have htwo : ∀ d, ¬ Blank d → ['/', d] <+: a :: u ++ q → ['/', d] <+: a :: u ++ rest := by
    intro d hd hp
    rw [List.cons_append, List.cons_prefix_cons] at hp ⊢
    refine ⟨hp.1, ?_⟩
    cases u with
    | nil =>
      obtain ⟨v, rfl⟩ := hp.2
      exact absurd (hq d rfl) hd
    | cons b u => exact List.cons_prefix_cons.2 ⟨(List.cons_prefix_cons.1 hp.2).1, List.nil_prefix⟩
  rintro (h | h | h | ⟨d, hd, hb⟩)
  · exact ho (Or.inl (htwo '/' (by decide) h))
  · exact ho (Or.inr (Or.inl (htwo '*' (by decide) h)))
  · exact ho (Or.inr (Or.inr (Or.inl (List.cons_prefix_cons.2 ⟨(List.cons_prefix_cons.1 h).1, List.nil_prefix⟩))))
  · exact ho (Or.inr (Or.inr (Or.inr ⟨d, by simpa using hd, hb⟩)))

/-- No blank is part of a text that stands for a token. -/
theorem IsLexeme.not_blank {u : List Char} (hu : IsLexeme u) : ∀ c ∈ u, ¬ Blank c := by
  obtain ⟨k, l, h⟩ := hu
  exact h.not_blank

theorem IsLexeme.not_mem {u : List Char} {c : Char} (hu : IsLexeme u) (hc : Blank c) : c ∉ u := by
  intro hm
  exact hu.not_blank c hm hc

/-- A token is the first segment of its own text. -/
theorem FirstSegment.self {s : Segment} {rest : List Char} {k : Kind} {l : Option Literal}
    (h : FirstSegment (s.text ++ rest) s) (hy : s.yield = .token k l) : FirstSegment s.text s := by
  generalize hr : s.text ++ rest = r at h
  cases h with
  | quoted _ hq => exact @FirstSegment.quoted _ _ [] rfl hq
  | @lexeme text _ _ ho hl hlex =>
    subst hr
    have ho' := not_opens_append hlex.ne_nil ho apart_nil
    rw [List.append_nil] at ho'
    exact FirstSegment.lexeme ho' hl.self hlex
  | _ => cases hy

/-- The first segment of a text stays what it is when a blank follows the text: the segment is not open, and where it yields
nothing, because it may be a comment that runs to the end of its line, the blank is a line feed. -/
theorem FirstSegment.append {r : List Char} {s : Segment} {c : Char} {q : List Char} (h : FirstSegment r s)
    (hc : Blank c) (hopen : ∀ f, s.yield = .fault f → ¬ f.Unterminated)
    (hline : s.yield = .nothing → c = '\n') : FirstSegment (r ++ c :: q) s := by
  have hq : Apart (c :: q) := apart_cons hc q
  cases h with
  | lineComment hp hl =>
    refine FirstSegment.lineComment (hp.trans (List.prefix_append _ _)) (hl.append ?_)
    intro u hu hm
    exact hu c hm (hline rfl)
  | blockComment hr hs =>
    subst hr
    exact FirstSegment.blockComment rfl hs.append
  | openComment => exact absurd (Or.inr rfl) (hopen _ rfl)
  | @quoted body rest hr hq =>
    subst hr
    have he : '"' :: (body ++ '"' :: rest) ++ c :: q = '"' :: (body ++ '"' :: (rest ++ c :: q)) := by simp
    exact FirstSegment.quoted he hq
  | openQuote => exact absurd (Or.inl rfl) (hopen _ rfl)
  | blank hr hb =>
    subst hr
    exact FirstSegment.blank rfl hb
  | lexeme ho hl hlex =>
    have hne : r ≠ [] := fun hr => hlex.ne_nil (List.prefix_nil.1 (hr ▸ hl.begins))
    have ho' := not_opens_append hne (show ¬ Opens (r ++ []) by rwa [List.append_nil]) hq
    exact FirstSegment.lexeme ho' (hl.append fun u hu => hu.not_mem hc) hlex
  | stray hr ho hn =>
    have hne : r ≠ [] := by simp [hr]
    have ho' := not_opens_append hne (show ¬ Opens (r ++ []) by rwa [List.append_nil]) hq
    subst hr
    exact FirstSegment.stray rfl ho' fun u hu hlex => hn u (begins_of_not_mem hu (hlex.not_mem hc)) hlex

/-- A token keeps its text where what follows stands apart. -/
theorem FirstSegment.append_apart {s : Segment} {rest q : List Char} {k : Kind} {l : Option Literal}
    (h : FirstSegment (s.text ++ rest) s) (hy : s.yield = .token k l) (hq : Apart q) : FirstSegment (s.text ++ q) s := by
  have hself := h.self hy
  cases q with
  | nil => rwa [List.append_nil]
  | cons c q =>
    refine hself.append (hq c rfl) ?_ ?_
    · intro f hf
      rw [hy] at hf
      cases hf
    · intro hn
      rw [hy] at hn
      cases hn

/-- Where a segment is the first of a text, the segments of the text are that one and those of the rest. -/
theorem segments_of_firstSegment {text rest : List Char} {yield : Yield}
    (h : FirstSegment (text ++ rest) ⟨text, yield⟩) : segments (text ++ rest) = ⟨text, yield⟩ :: segments rest :=
  (segmented_iff.1 (@Segmented.cons ⟨text, yield⟩ rest _ h (segmented_segments rest))).symm

end Loxeme
