import Loxeme.Proofs.Boundary

/-!
# Tokens with trivia between them

Blanks and comments that have an end are trivia. A text made of the lexemes of tokens, taken from any sources, with trivia in
front of, between and behind them, is scanned into those tokens again: a blank behind a lexeme keeps it from reaching into what
follows (`segments_lexeme_append`), and trivia yields nothing whatever is written in its comments (`Trivia.segments_append`).
-/

namespace Loxeme

/-- Blanks, comments up to the end of their line and comments up to the first `*/` in them, one behind the other. -/
inductive Trivia : List Char → Prop where
  | nil : Trivia []
  | blank {c : Char} {t : List Char} : Blank c → Trivia t → Trivia (c :: t)
  | lineComment {body t : List Char} : '\n' ∉ body → Trivia t → Trivia ('/' :: '/' :: (body ++ '\n' :: t))
  | blockComment {body t : List Char} : ¬ ['*', '/'] <:+: body ++ ['*'] → Trivia t →
      Trivia ('/' :: '*' :: (body ++ ['*', '/']) ++ t)

/-- A text in which each token's lexeme is followed by the text beside it. -/
def spaced (lead : List Char) (parts : List (Token × List Char)) : List Char :=
  lead ++ parts.flatMap fun p => p.1.lexeme.toList ++ p.2

/-! ## Trivia yields nothing -/

/-- A comment whose `*/` is its end is the shortest beginning that ends in one, whatever follows. -/
theorem shortest_close {body : List Char} (h : ¬ ['*', '/'] <:+: body ++ ['*']) (q : List Char) :
    Shortest (fun u => ['*', '/'] <:+ u) (body ++ ['*', '/'] ++ q) (body ++ ['*', '/']) := by
  refine Shortest.append ⟨List.prefix_rfl, List.suffix_append _ _, ?_⟩
  intro u hu hs
  have he : body ++ ['*', '/'] = (body ++ ['*']) ++ ['/'] := by simp
  rw [he, List.prefix_concat_iff] at hu
  rcases hu with rfl | hu
  · simp
  · exact absurd (hs.isInfix.trans hu.isInfix) h

/-- In front of a text trivia adds segments that yield nothing. -/
theorem Trivia.segments_append {w : List Char} (h : Trivia w) (q : List Char) :
    ∃ l, segments (w ++ q) = l ++ segments q ∧ ∀ s ∈ l, s.yield = .nothing := by
  induction h with
  | nil => exact ⟨[], rfl, fun s hs => by cases hs⟩
  | @blank c t hc _ ih =>
    obtain ⟨l, hl, hn⟩ := ih
    have hs : FirstSegment ([c] ++ (t ++ q)) ⟨[c], .nothing⟩ := FirstSegment.blank rfl hc
    refine ⟨⟨[c], .nothing⟩ :: l, ?_, by simpa using hn⟩
    rw [List.cons_append, List.cons_append, ← hl]
    exact segments_of_firstSegment hs
  | @lineComment body t hb _ ih =>
    obtain ⟨l, hl, hn⟩ := ih
    have hrun : Longest (fun u => ∀ c ∈ u, c ≠ '\n') ('/' :: '/' :: body) ('/' :: '/' :: body) := by
      refine ⟨List.prefix_rfl, ?_, ?_⟩
      · intro c hc
        simp only [List.mem_cons] at hc
        rcases hc with rfl | rfl | hc
        · decide
        · decide
        · exact ne_of_mem_of_not_mem hc hb
      · intro u hu _
        exact hu.length_le
    have hs : FirstSegment ('/' :: '/' :: body ++ '\n' :: (t ++ q)) ⟨'/' :: '/' :: body, .nothing⟩ :=
      FirstSegment.lineComment ⟨body ++ '\n' :: (t ++ q), rfl⟩ (hrun.append fun u hu hm => hu '\n' hm rfl)
    have hf : FirstSegment (['\n'] ++ (t ++ q)) ⟨['\n'], .nothing⟩ := FirstSegment.blank rfl blank_newline
    refine ⟨⟨'/' :: '/' :: body, .nothing⟩ :: ⟨['\n'], .nothing⟩ :: l, ?_, by simpa using hn⟩
    have he : '/' :: '/' :: (body ++ '\n' :: t) ++ q = '/' :: '/' :: body ++ '\n' :: (t ++ q) := by simp
    rw [he, segments_of_firstSegment hs, List.cons_append, List.cons_append, ← hl]
    exact congrArg _ (segments_of_firstSegment hf)
  | @blockComment body t hb _ ih =>
    obtain ⟨l, hl, hn⟩ := ih
    have hs : FirstSegment ('/' :: '*' :: (body ++ ['*', '/']) ++ (t ++ q)) ⟨'/' :: '*' :: (body ++ ['*', '/']), .nothing⟩ :=
      FirstSegment.blockComment rfl (shortest_close hb _)
    refine ⟨⟨'/' :: '*' :: (body ++ ['*', '/']), .nothing⟩ :: l, ?_, by simpa using hn⟩
    rw [List.append_assoc, segments_of_firstSegment hs, hl, List.cons_append]

/-- Segments that yield nothing yield no token and no fault. -/
theorem filterMap_of_yield_nothing {l : List Segment} (h : ∀ s ∈ l, s.yield = .nothing) :
    l.filterMap Segment.content? = [] ∧ l.filterMap Segment.fault? = [] := by
  constructor
  · rw [List.filterMap_eq_nil_iff]
    intro s hs
    rw [Segment.content?, h s hs]
  · rw [List.filterMap_eq_nil_iff]
    intro s hs
    rw [Segment.fault?, h s hs]

/-! ## A lexeme that stands apart is scanned again -/

/-- A token of a source, other than the one for the end of the input, is what a segment of the source yields. -/
theorem exists_segment_of_mem_tokens {source : String} {t : Token} (h : t ∈ tokens source) (hk : t.kind ≠ .endOfInput) :
    ∃ s ∈ segments source.toList, s.text = t.lexeme.toList ∧ s.yield = .token t.kind t.literal := by
  have hmem : t.content ∈ (tokens source).map Token.content := List.mem_map_of_mem h
  rw [content_tokens] at hmem
  rcases List.mem_append.1 hmem with hm | hm
  · obtain ⟨s, hs, hc⟩ := List.mem_filterMap.1 hm
    refine ⟨s, hs, ?_⟩
    unfold Segment.content? at hc
    split at hc
    · next k l hy =>
      simp only [Token.content, Option.some.injEq, Prod.mk.injEq] at hc
      obtain ⟨rfl, ht, rfl⟩ := hc
      exact ⟨by rw [← ht, String.toList_ofList], hy⟩
    · cases hc
  · simp only [Token.content, List.mem_singleton, Prod.mk.injEq] at hm
    exact absurd hm.1 hk

/-- In front of a text that stands apart the lexeme of a token adds the segment that yields the token. -/
theorem segments_lexeme_append {source : String} {t : Token} (h : t ∈ tokens source) (hk : t.kind ≠ .endOfInput)
    {q : List Char} (hq : Apart q) :
    segments (t.lexeme.toList ++ q) = ⟨t.lexeme.toList, .token t.kind t.literal⟩ :: segments q := by
  obtain ⟨s, hs, ht, hy⟩ := exists_segment_of_mem_tokens h hk
  obtain ⟨rest, hfirst⟩ := firstSegment_of_mem hs
  rw [← ht, ← hy]
  exact segments_of_firstSegment (hfirst.append_apart hy hq)

/-- The segments of spaced lexemes yield the tokens of the lexemes and no fault. -/
theorem filterMap_segments_spaced {lead : List Char} {parts : List (Token × List Char)}
    (htokens : ∀ p ∈ parts, ∃ source, p.1 ∈ tokens source ∧ p.1.kind ≠ .endOfInput)
    (hlead : Trivia lead) (htrivia : ∀ p ∈ parts, Trivia p.2)
    (hapart : ∀ p ∈ parts, Apart p.2) (hbetween : ∀ p ∈ parts.dropLast, p.2 ≠ []) :
    (segments (spaced lead parts)).filterMap Segment.content? = parts.map (fun p => p.1.content) ∧
      (segments (spaced lead parts)).filterMap Segment.fault? = [] := by
  induction parts generalizing lead with
  | nil =>
    obtain ⟨l, hl, hn⟩ := hlead.segments_append []
    rw [List.append_nil, segments_nil, List.append_nil] at hl
    rw [spaced, List.flatMap_nil, List.append_nil, hl]
    exact filterMap_of_yield_nothing hn
  | cons p rest ih =>
    obtain ⟨source, hmem, hk⟩ := htokens p (by simp)
    have hrest := ih (fun r hr => htokens r (by simp [hr])) (htrivia p (by simp)) (fun r hr => htrivia r (by simp [hr]))
      (fun r hr => hapart r (by simp [hr])) ?_
    · -- what follows the lexeme begins with the text beside it or, where this is empty, is empty
      have hq : Apart (spaced p.2 rest) := by
        intro c hc
        cases hw : p.2 with
        | cons d w => exact hapart p (by simp) c (by simpa [spaced, hw] using hc)
        | nil =>
          cases rest with
          | nil => simp [spaced, hw] at hc
          | cons r rest => exact absurd hw (hbetween p (by simp))
      obtain ⟨l, hl, hn⟩ := hlead.segments_append (p.1.lexeme.toList ++ spaced p.2 rest)
      obtain ⟨hcontent, hfault⟩ := filterMap_of_yield_nothing hn
      have he : spaced lead (p :: rest) = lead ++ (p.1.lexeme.toList ++ spaced p.2 rest) := by simp [spaced]
      rw [he, hl, segments_lexeme_append hmem hk hq, List.filterMap_append, List.filterMap_append, hcontent, hfault]
      constructor
      · simp [hrest.1, Segment.content?, Token.content]
      · rw [List.filterMap_cons, hrest.2]
        rfl
    · intro r hr
      cases rest with
      | nil => cases hr
      | cons r' rest => exact hbetween r (by simp [hr])

/-- Lexemes of tokens from any sources, with trivia in front of, between and behind them, are scanned into the same tokens
without a fault. The trivia between two lexemes is not empty, and behind a lexeme trivia begins with a blank. -/
theorem scan_spaced (lead : List Char) (parts : List (Token × List Char))
    (htokens : ∀ p ∈ parts, ∃ source, p.1 ∈ tokens source ∧ p.1.kind ≠ .endOfInput)
    (hlead : Trivia lead) (htrivia : ∀ p ∈ parts, Trivia p.2)
    (hapart : ∀ p ∈ parts, Apart p.2) (hbetween : ∀ p ∈ parts.dropLast, p.2 ≠ []) :
    diagnostics (String.ofList (spaced lead parts)) = [] ∧
      (tokens (String.ofList (spaced lead parts))).map Token.content =
        parts.map (fun p => p.1.content) ++ [(.endOfInput, "", none)] := by
  obtain ⟨hcontent, hfault⟩ := filterMap_segments_spaced htokens hlead htrivia hapart hbetween
  constructor
  · have h := fault_diagnostics (String.ofList (spaced lead parts))
    rw [String.toList_ofList, hfault] at h
    exact List.map_eq_nil_iff.1 h
  · rw [content_tokens, String.toList_ofList, hcontent]

/-- Two slashes and a number with a point and digits behind it, each apart from the next. -/
def apartParts : List (Token × List Char) :=
  [(⟨.slash, "/", none, 1⟩, [' ']), (⟨.slash, "/", none, 1⟩, ['\n', '/', '*', '"', '*', '/']),
   (⟨.number, "1", some (.number ⟨0x3ff0000000000000⟩), 1⟩, ['\t']), (⟨.dot, ".", none, 2⟩, [' ', '/', '/', '*', '\n']),
   (⟨.number, "5", some (.number ⟨0x4014000000000000⟩), 1⟩, [])]

theorem scan_spaced_apartParts :
    diagnostics (String.ofList (spaced ['/', '/', '"', '\n'] apartParts)) = [] ∧
      (tokens (String.ofList (spaced ['/', '/', '"', '\n'] apartParts))).map Token.content =
        apartParts.map (fun p => p.1.content) ++ [(.endOfInput, "", none)] := by
  have hlead : Trivia ['/', '/', '"', '\n'] := @Trivia.lineComment ['"'] [] (by decide) Trivia.nil
  have hparts : ∀ p ∈ apartParts, (∃ source, p.1 ∈ tokens source ∧ p.1.kind ≠ .endOfInput) ∧ Trivia p.2 ∧ Apart p.2 := by
    intro p hp
    simp only [apartParts, List.mem_cons, List.not_mem_nil, or_false] at hp
    rcases hp with rfl | rfl | rfl | rfl | rfl
    · exact ⟨⟨"/", by decide +kernel⟩, Trivia.blank blank_space Trivia.nil, apart_cons blank_space _⟩
    · have hcomment : Trivia ['/', '*', '"', '*', '/'] := @Trivia.blockComment ['"'] [] (by decide) Trivia.nil
      exact ⟨⟨"/", by decide +kernel⟩, Trivia.blank blank_newline hcomment, apart_cons blank_newline _⟩
    · have htab : Blank '\t' := Or.inr (Or.inr (Or.inl rfl))
      exact ⟨⟨"1", by decide +kernel⟩, Trivia.blank htab Trivia.nil, apart_cons htab _⟩
    · have hcomment : Trivia ['/', '/', '*', '\n'] := @Trivia.lineComment ['*'] [] (by decide) Trivia.nil
      exact ⟨⟨"\n.", by decide +kernel⟩, Trivia.blank blank_space hcomment, apart_cons blank_space _⟩
    · exact ⟨⟨"5", by decide +kernel⟩, Trivia.nil, apart_nil⟩
  exact scan_spaced _ _ (fun p hp => (hparts p hp).1) hlead (fun p hp => (hparts p hp).2.1) (fun p hp => (hparts p hp).2.2)
    (by decide)

end Loxeme
