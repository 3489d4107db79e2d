import Loxeme.Proofs.Boundary

/-!
# What follows a segment

A segment depends on the text behind it in three ways only: a comment up to the end of its line goes on to the next line feed,
a slash is a symbol where it opens no comment, and a lexeme reaches as far as it can. `Stops text rest` says that nothing of
this carries `text` on into `rest`. A first segment stops where the text behind it begins (`FirstSegment.stops`), and one that
has an end stays the first segment in front of every other text that it stops before (`FirstSegment.of_stops`).
-/

namespace Loxeme

variable {text rest u v : List Char} {s : Segment} {c : Char}

/-- A piece of a source that does not go on into the text behind it. -/
structure Stops (text rest : List Char) : Prop where
  /-- A comment up to the end of its line goes on to the next line feed. -/
  line : ['/', '/'] <+: text → ∀ c ∈ rest.head?, c = '\n'
  /-- A slash by itself is not followed by what makes it open a comment. -/
  slash : text = ['/'] → ∀ c ∈ rest.head?, c ≠ '/' ∧ c ≠ '*'
  /-- No lexeme reaches further. -/
  lexeme : ∀ v, v <+: rest → IsLexeme (text ++ v) → v = []

/-- A segment that takes in the rest of a source because its end is missing. -/
def Segment.Open (s : Segment) : Prop := ∃ f, s.yield = .fault f ∧ f.Unterminated

/-! ## Lexemes and what opens something -/

/-- The only lexeme that begins with a slash is the slash. -/
theorem IsLexeme.eq_nil_of_slash (h : IsLexeme ('/' :: u)) : u = [] := by
  rcases (isLexeme_cons_iff (by decide) (by decide) u).1 h with ⟨hu, -⟩ | ⟨-, hs⟩
  · exact hu
  · exact absurd hs (by decide)

theorem isLexeme_slash : IsLexeme ['/'] :=
  (isLexeme_cons_iff (by decide) (by decide) []).2 (Or.inl ⟨rfl, rfl⟩)

/-- What is opened stays open whatever follows. -/
theorem Opens.append (h : Opens u) (v : List Char) : Opens (u ++ v) := by
  have hp : u <+: u ++ v := List.prefix_append _ _
  rcases h with h | h | h | ⟨c, hc, hb⟩
  · exact Or.inl (h.trans hp)
  · exact Or.inr (Or.inl (h.trans hp))
  · exact Or.inr (Or.inr (Or.inl (h.trans hp)))
  · refine Or.inr (Or.inr (Or.inr ⟨c, ?_, hb⟩))
    cases u with
    | nil => cases hc
    | cons d u => simpa using hc

/-- A lexeme opens nothing. -/
theorem IsLexeme.not_opens (h : IsLexeme u) : ¬ Opens u := by
  rintro (⟨v, rfl⟩ | ⟨v, rfl⟩ | ⟨v, rfl⟩ | ⟨c, hc, hb⟩)
  · exact absurd h.eq_nil_of_slash (by simp)
  · exact absurd h.eq_nil_of_slash (by simp)
  · rcases (isLexeme_cons_iff (by decide) (by decide) v).1 h with ⟨-, hs⟩ | ⟨-, hs⟩ <;> exact absurd hs (by decide)
  · exact h.not_mem hb (List.mem_of_mem_head? hc)

/-- What opens something is not continued to a lexeme. -/
theorem Opens.not_isLexeme (h : Opens u) (v : List Char) : ¬ IsLexeme (u ++ v) := fun hu => hu.not_opens (h.append v)

/-- A lexeme that stops before a text opens nothing together with it. -/
theorem Stops.not_opens (h : Stops text rest) (hl : IsLexeme text) : ¬ Opens (text ++ rest) := by
  obtain ⟨k, l, hlex⟩ := hl
  obtain ⟨a, t, rfl⟩ := List.exists_cons_of_ne_nil hlex.ne_nil
  have hl : IsLexeme (a :: t) := ⟨k, l, hlex⟩
  -- two characters that open a comment would be the slash and the first character behind it
  have htwo : ∀ d, d = '/' ∨ d = '*' → ¬ ['/', d] <+: a :: t ++ rest := by
    intro d hd hp
    rw [List.cons_append, List.cons_prefix_cons] at hp
    obtain ⟨rfl, hp⟩ := hp
    obtain rfl := hl.eq_nil_of_slash
    obtain ⟨w, rfl⟩ := hp
    have hne := h.slash rfl d rfl
    rcases hd with rfl | rfl
    · exact hne.1 rfl
    · exact hne.2 rfl
  rintro (hp | hp | hp | ⟨d, hd, hb⟩)
  · exact htwo '/' (Or.inl rfl) hp
  · exact htwo '*' (Or.inr rfl) hp
  · exact hl.not_opens (Or.inr (Or.inr (Or.inl (List.cons_prefix_cons.2 ⟨(List.cons_prefix_cons.1 hp).1, List.nil_prefix⟩))))
  · exact hl.not_opens (Or.inr (Or.inr (Or.inr ⟨d, by simpa using hd, hb⟩)))

/-- A character of a lexeme is one of a symbol, a digit, a point or a letter. -/
theorem Lexeme.symbol_or_class_of_mem {k : Kind} {l : Option Literal} (h : Lexeme text k l) (hc : c ∈ text) :
    (text, k) ∈ symbols ∨ Digit c ∨ c = '.' ∨ Letter c := by
  rcases h.symbol_or_number_or_word with ⟨hs, -⟩ | ⟨w, f, hw, hf, rfl, -⟩ | ⟨⟨-, hw⟩, -⟩
  · exact Or.inl hs
  · refine Or.inr ?_
    unfold Decimal.pointed at hc
    split at hc
    · exact Or.inl (hw.2 c hc)
    next hne =>
    rcases List.mem_append.1 hc with hc | hc
    · exact Or.inl (hw.2 c hc)
    · rcases List.mem_cons.1 hc with rfl | hc
      · exact Or.inr (Or.inl rfl)
      · exact Or.inl ((hf.resolve_left hne).2 c hc)
  · rcases hw c hc with hl | hd
    · exact Or.inr (Or.inr (Or.inr hl))
    · exact Or.inr (Or.inl hd)

/-- A quote is part of no lexeme and a slash of none but itself. -/
theorem IsLexeme.eq_of_mem (h : IsLexeme u) (hc : c = '"' ∨ c = '/') (hm : c ∈ u) : u = [c] := by
  obtain ⟨k, l, hlex⟩ := h
  rcases hlex.symbol_or_class_of_mem hm with hs | hd | rfl | hl
  · rcases mem_symbols_iff.1 hs with ⟨d, rfl, -⟩ | ⟨d, rfl, hk⟩
    · rw [List.mem_singleton.1 hm]
    · rcases List.mem_cons.1 hm with rfl | hm
      · rcases hc with rfl | rfl <;> cases hk
      · obtain rfl := List.mem_singleton.1 hm
        exact absurd hc (by decide)
  · rcases hc with rfl | rfl <;> exact absurd hd (by decide)
  · rcases hc with hc | hc <;> exact absurd hc (by decide)
  · rcases hc with rfl | rfl <;> exact absurd hl (by decide)

/-! ## Open segments -/

/-- What an open segment is: a comment or a text in quotes, up to the end of the source. -/
theorem FirstSegment.comment_or_text_of_open {r : List Char} (h : FirstSegment r s) (ho : s.Open) :
    (∃ t, r = '/' :: '*' :: t ∧ ¬ ['*', '/'] <:+: t ∧ s = ⟨r, .fault .unterminatedComment⟩) ∨
      (∃ body, r = '"' :: body ∧ '"' ∉ body ∧ s = ⟨r, .fault .unterminatedString⟩) := by
  obtain ⟨f, hy, hf⟩ := ho
  cases h with
  | openComment hr hn => exact Or.inl ⟨_, hr, hn, rfl⟩
  | openQuote hr hq => exact Or.inr ⟨_, hr, hq, rfl⟩
  | stray =>
    cases hy
    exact absurd hf (Fault.not_unterminated_stray _)
  | _ => cases hy

/-- An open segment takes in all of the text. -/
theorem FirstSegment.eq_nil_of_open (h : FirstSegment (s.text ++ rest) s) (ho : s.Open) :
    rest = [] := by
  rcases h.comment_or_text_of_open ho with ⟨-, -, -, hs⟩ | ⟨-, -, -, hs⟩
  · simpa using congrArg Segment.text hs
  · simpa using congrArg Segment.text hs

/-! ## A first segment and the text behind it -/

/-- Of a text that opens something other than a comment up to the end of its line nothing is carried on. -/
theorem Opens.stops (h : Opens text) (hline : ¬ ['/', '/'] <+: text) : Stops text rest where
  line := fun hp => absurd hp hline
  slash := by
    rintro rfl
    exact absurd h isLexeme_slash.not_opens
  lexeme := fun v _ hl => absurd hl (h.not_isLexeme v)

/-- A line that begins with two slashes begins with them when it is cut off. -/
theorem Longest.opens_line {r : List Char} (h : Longest (fun u => ∀ c ∈ u, c ≠ '\n') r text) (hp : ['/', '/'] <+: r) :
    ['/', '/'] <+: text :=
  List.prefix_of_prefix_length_le hp h.begins (h.longest _ hp (by simp))

/-- A first segment stops where the text behind it begins. -/
theorem FirstSegment.stops (h : FirstSegment (s.text ++ rest) s) : Stops s.text rest := by
  generalize hr : s.text ++ rest = r at h
  cases h with
  | @lineComment text hp hl =>
    subst hr
    have htext := hl.opens_line hp
    refine ⟨?_, ?_, fun v _ hv => absurd hv (Opens.not_isLexeme (Or.inl htext) v)⟩
    · intro _ c hc
      by_contra hne
      -- otherwise the comment could be one character longer
      obtain ⟨q, rfl⟩ := List.head?_eq_some_iff.1 hc
      have hlong := hl.longest (text ++ [c]) ⟨q, by simp⟩ (by
        intro d hd
        rcases List.mem_append.1 hd with hd | hd
        · exact hl.holds d hd
        · rwa [List.mem_singleton.1 hd])
      rw [List.length_append] at hlong
      exact absurd hlong (Nat.not_succ_le_self _)
    · intro ht
      rw [show text = ['/'] from ht] at htext
      exact absurd htext (by decide)
  | blockComment => exact Opens.stops (Or.inr (Or.inl ⟨_, rfl⟩)) (by simp)
  | openComment hr' => exact Opens.stops (Or.inr (Or.inl ⟨_, hr'.symm⟩)) (by simp [hr'])
  | quoted => exact Opens.stops (Or.inr (Or.inr (Or.inl ⟨_, rfl⟩))) (by simp)
  | openQuote hr' => exact Opens.stops (Or.inr (Or.inr (Or.inl ⟨_, hr'.symm⟩))) (by simp [hr'])
  | blank _ hb => exact Opens.stops (Or.inr (Or.inr (Or.inr ⟨_, rfl, hb⟩))) (by simp)
  | @lexeme text _ _ ho hl hlex =>
    subst hr
    refine ⟨fun hp => absurd (Or.inl (hp.trans hl.begins)) ho, ?_, ?_⟩
    · rintro ht c hc
      obtain ⟨q, rfl⟩ := List.head?_eq_some_iff.1 hc
      rw [show text = ['/'] from ht] at ho
      constructor
      · rintro rfl
        exact ho (Or.inl ⟨q, rfl⟩)
      · rintro rfl
        exact ho (Or.inr (Or.inl ⟨q, rfl⟩))
    · intro v hv hu
      have hle := hl.longest _ ((List.prefix_append_right_inj text).2 hv) hu
      rw [List.length_append] at hle
      exact List.length_eq_zero_iff.1 (by omega)
  | @stray c t hr' _ hn =>
    subst hr
    refine ⟨by simp, ?_, fun v hv hu => absurd hu (hn _ ((List.prefix_append_right_inj [c]).2 hv))⟩
    intro ht
    have hc : [c] = ['/'] := ht
    exact absurd (hc ▸ isLexeme_slash) (hn [c] ⟨rest, rfl⟩)

/-- What stops before a text with a quote or a slash in it stops before it when it is longer. -/
theorem Stops.append (h : Stops text rest) (hne : text ≠ []) (hc : c = '"' ∨ c = '/') (hm : c ∈ rest) (q : List Char) :
    Stops text (rest ++ q) := by
  have hrest : rest ≠ [] := List.ne_nil_of_mem hm
  have hhead : (rest ++ q).head? = rest.head? := by
    obtain ⟨d, t, rfl⟩ := List.exists_cons_of_ne_nil hrest
    rfl
  refine ⟨by rw [hhead]; exact h.line, by rw [hhead]; exact h.slash, ?_⟩
  intro v hv hl
  rcases List.prefix_or_prefix_of_prefix hv (List.prefix_append rest q) with hp | hp
  · exact h.lexeme v hp hl
  · -- a lexeme that reaches past the quote or the slash contains it, and something in front of it
    have hlen := congrArg List.length (hl.eq_of_mem hc (List.mem_append_right text (hp.subset hm)))
    have hpos := List.length_pos_iff.2 hne
    have hpos' := List.length_pos_iff.2 hrest
    have hle := hp.length_le
    simp only [List.length_append, List.length_singleton] at hlen
    omega

/-- The first segment of a text is the first segment in front of every other text that it stops before, if it has an end. -/
theorem FirstSegment.of_stops {rest' : List Char} (h : FirstSegment (s.text ++ rest) s)
    (hclosed : ¬ s.Open) (hs : Stops s.text rest') : FirstSegment (s.text ++ rest') s := by
  generalize hr : s.text ++ rest = r at h
  cases h with
  | @lineComment text hp hl =>
    subst hr
    have htext := hl.opens_line hp
    refine FirstSegment.lineComment (htext.trans (List.prefix_append _ _)) ?_
    cases rest' with
    | nil => simpa using hl.self
    | cons c q =>
      obtain rfl := hs.line htext c rfl
      exact hl.self.append fun u hu hm => hu '\n' hm rfl
  | blockComment hr' hc => exact FirstSegment.blockComment rfl hc.self.append
  | openComment => exact absurd ⟨_, rfl, Or.inr rfl⟩ hclosed
  | @quoted body _ hr' hq => exact @FirstSegment.quoted _ body rest' (by simp) hq
  | openQuote => exact absurd ⟨_, rfl, Or.inl rfl⟩ hclosed
  | blank hr' hb => exact FirstSegment.blank rfl hb
  | @lexeme text _ _ ho hl hlex =>
    refine FirstSegment.lexeme (hs.not_opens hl.holds) ⟨List.prefix_append _ _, hl.holds, ?_⟩ hlex
    intro u hu hlu
    rcases List.prefix_or_prefix_of_prefix hu (List.prefix_append text rest') with hp | ⟨v, rfl⟩
    · exact hp.length_le
    · rw [hs.lexeme v ((List.prefix_append_right_inj text).1 hu) hlu, List.append_nil]
  | @stray c t hr' ho hn =>
    subst hr
    have hone : ¬ IsLexeme [c] := hn [c] ⟨rest, rfl⟩
    have ho' : ¬ Opens (c :: rest') := by
      refine not_opens_cons ?_ ?_ ?_
      · intro hb
        exact ho (Or.inr (Or.inr (Or.inr ⟨c, rfl, hb⟩)))
      · rintro rfl
        exact ho (Or.inr (Or.inr (Or.inl ⟨rest, rfl⟩)))
      · rintro rfl
        exact hone isLexeme_slash
    refine FirstSegment.stray rfl ho' ?_
    intro u hu hlu
    obtain ⟨v, rfl⟩ := hlu.exists_cons hu
    obtain rfl := hs.lexeme v (List.cons_prefix_cons.1 hu).2 hlu
    exact hone hlu

end Loxeme
