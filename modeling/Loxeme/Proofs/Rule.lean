import Loxeme.Proofs.Lexeme

/-!
# The first segment of a text

`FirstSegment r s` says that `s` is the segment that the rule of the language puts at the front of `r`, without saying how it
is found: a comment or a text in quotes ends where it is first closed, a lexeme reaches as far as it can, and what neither
opens nor begins anything is a fault of one character. Every text but the empty one has exactly one first segment, and it is
the one that a cut gives (`firstSegment_iff`).
-/

namespace Loxeme

/-- A text that begins with a comment, a text in quotes or a blank. No lexeme is looked for in front of it. -/
def Opens (r : List Char) : Prop :=
  ['/', '/'] <+: r ∨ ['/', '*'] <+: r ∨ ['"'] <+: r ∨ ∃ c ∈ r.head?, Blank c

/-- The segment at the front of a text. -/
inductive FirstSegment (r : List Char) : Segment → Prop where
  | lineComment {text : List Char} : ['/', '/'] <+: r → Longest (fun u => ∀ c ∈ u, c ≠ '\n') r text →
      FirstSegment r ⟨text, .nothing⟩
  | blockComment {t body : List Char} : r = '/' :: '*' :: t → Shortest (fun u => ['*', '/'] <:+ u) t body →
      FirstSegment r ⟨'/' :: '*' :: body, .nothing⟩
  | openComment {t : List Char} : r = '/' :: '*' :: t → ¬ ['*', '/'] <:+: t →
      FirstSegment r ⟨r, .fault .unterminatedComment⟩
  | quoted {body rest : List Char} : r = '"' :: (body ++ '"' :: rest) → '"' ∉ body →
      FirstSegment r ⟨'"' :: (body ++ ['"']), .token .string (some (.text (String.ofList body)))⟩
  | openQuote {body : List Char} : r = '"' :: body → '"' ∉ body → FirstSegment r ⟨r, .fault .unterminatedString⟩
  | blank {c : Char} {t : List Char} : r = c :: t → Blank c → FirstSegment r ⟨[c], .nothing⟩
  | lexeme {text : List Char} {kind : Kind} {literal : Option Literal} : ¬ Opens r → Longest IsLexeme r text →
      Lexeme text kind literal → FirstSegment r ⟨text, .token kind literal⟩
  | stray {c : Char} {t : List Char} : r = c :: t → ¬ Opens r → (∀ u, u <+: r → ¬ IsLexeme u) →
      FirstSegment r ⟨[c], .fault (.unexpectedCharacter c)⟩

/-! ## A cut gives the first segment -/

/-- The text up to the first `*/` is the shortest beginning that ends in it. -/
theorem shortest_of_splitClose {t body rest : List Char} (h : splitClose t = some (body, rest)) :
    Shortest (fun u => ['*', '/'] <:+ u) t body := by
  fun_induction splitClose t generalizing body rest with
  | case1 t =>
    obtain ⟨rfl, rfl⟩ : ['*', '/'] = body ∧ t = rest := by simpa using h
    exact ⟨⟨t, rfl⟩, List.suffix_rfl, fun u _ hu => hu.length_le⟩
  | case2 c t hne ih =>
    obtain ⟨⟨b, r⟩, hb, he⟩ := Option.map_eq_some_iff.1 h
    obtain ⟨rfl, rfl⟩ : c :: b = body ∧ r = rest := by simpa using he
    have hs := ih hb
    refine ⟨List.cons_prefix_cons.2 ⟨rfl, hs.begins⟩, hs.holds.trans (List.suffix_cons c b), ?_⟩
    intro u hu hu'
    rcases List.prefix_cons_iff.1 hu with rfl | ⟨v, rfl, hv⟩
    · simp at hu'
    · rcases List.suffix_cons_iff.1 hu' with he | hv'
      · -- the `*/` would stand at the very front, which is the first equation of `splitClose`
        obtain ⟨rfl, rfl⟩ := List.cons.inj he
        obtain ⟨w, rfl⟩ := hv
        exact absurd rfl (hne w rfl)
      · exact Nat.succ_le_succ (hs.shortest v hv hv')
  | case3 => simp at h

/-- Where there is nothing to split at, there is no `*/`. -/
theorem not_infix_of_splitClose {t : List Char} (h : splitClose t = none) : ¬ ['*', '/'] <:+: t := by
  fun_induction splitClose t with
  | case1 t => simp at h
  | case2 c t hne ih =>
    rw [List.infix_cons_iff]
    rintro (⟨w, hw⟩ | hi)
    · obtain ⟨rfl, rfl⟩ := List.cons.inj hw
      exact hne w rfl rfl
    · exact ih (Option.map_eq_none_iff.1 h) hi
  | case3 => simp

/-- The text up to its first line feed is the longest beginning without one. -/
theorem longest_line (r : List Char) : Longest (fun u => ∀ c ∈ u, c ≠ '\n') r (r.takeWhile (· ≠ '\n')) := by
  have h := longest_takeWhile (fun c => decide (c ≠ '\n')) r
  simpa only [decide_eq_true_eq] using h

section Cut

variable {c : Char} {t : List Char}

/-- A lexeme that begins a text begins with the first character of the text. -/
theorem IsLexeme.exists_cons {u : List Char} (h : IsLexeme u) (hu : u <+: c :: t) : ∃ v, u = c :: v := by
  obtain ⟨k, l, hl⟩ := h
  rcases List.prefix_cons_iff.1 hu with rfl | ⟨v, rfl, -⟩
  · exact absurd rfl hl.ne_nil
  · exact ⟨v, rfl⟩

/-- Behind a point there are digits or nothing is split off. -/
theorem digits_splitFraction (t : List Char) : (splitFraction t).1 = [] ∨ Digits (splitFraction t).1 := by
  unfold splitFraction
  split
  · next d u _ =>
    split
    · next hd =>
      refine Or.inr ⟨by simp, ?_⟩
      intro e he
      rw [← isDigit_iff]
      rcases List.mem_cons.1 he with rfl | he
      · exact hd
      · exact List.mem_takeWhile_imp he
    · exact Or.inl rfl
  · exact Or.inl rfl

/-- A number reaches as far as a lexeme can. -/
theorem firstSegment_cutNumber (ho : ¬ Opens (c :: t)) (hc : Digit c) :
    FirstSegment (c :: t) (Segment.cutNumber c t).1 := by
  have hwhole : c :: t.takeWhile Char.isDigit = (c :: t).takeWhile Char.isDigit := by
    rw [List.takeWhile_cons_of_pos (isDigit_iff.2 hc)]
  have hrest : t.dropWhile Char.isDigit = (c :: t).dropWhile Char.isDigit := by
    rw [List.dropWhile_cons_of_pos (isDigit_iff.2 hc)]
  have happ := splitFraction_append ((c :: t).takeWhile Char.isDigit) ((c :: t).dropWhile Char.isDigit)
  rw [List.takeWhile_append_dropWhile] at happ
  have hdigits : Digits ((c :: t).takeWhile Char.isDigit) :=
    ⟨by rw [← hwhole]; simp, fun d hd => isDigit_iff.1 (List.mem_takeWhile_imp hd)⟩
  have hlex := Lexeme.number hdigits (digits_splitFraction ((c :: t).dropWhile Char.isDigit))
  simp only [Segment.cutNumber, hwhole, hrest]
  refine FirstSegment.lexeme ho ⟨⟨_, happ⟩, ⟨_, _, hlex⟩, ?_⟩ hlex
  intro u hu hu'
  obtain ⟨v, rfl⟩ := hu'.exists_cons hu
  obtain ⟨k, l, hv⟩ := hu'
  obtain ⟨w, f, hw, hf, he, -⟩ := hv.number_of_digit hc
  obtain ⟨z, hz⟩ := hu
  rw [he] at hz ⊢
  have hw' : ∀ d ∈ w, d.isDigit = true := fun d hd => isDigit_iff.2 (hw.2 d hd)
  rcases hf with rfl | hf
  · -- no digits behind the point: the whole lexeme is part of the first run of digits
    have hle := (begins_takeWhile (p := Char.isDigit) ⟨z, hz⟩ (by simpa [Decimal.pointed] using hw')).length_le
    refine hle.trans ?_
    unfold Decimal.pointed
    split <;> simp
  · -- the point ends the first run, and the digits behind it begin the second
    obtain ⟨d, g, rfl⟩ := List.exists_cons_of_ne_nil hf.1
    have hd : d.isDigit = true := isDigit_iff.2 (hf.2 d (by simp))
    have hg : ∀ e ∈ g, e.isDigit = true := fun e he => isDigit_iff.2 (hf.2 e (by simp [he]))
    have hsrc : c :: t = w ++ '.' :: d :: (g ++ z) := by
      rw [← hz]
      simp [Decimal.pointed]
    rw [hsrc, List.takeWhile_append_of_pos hw', List.dropWhile_append_of_pos hw']
    simp [splitFraction, hd, Decimal.pointed, List.takeWhile_append_of_pos hg]

/-- A word reaches as far as a lexeme can. -/
theorem firstSegment_cutWord (ho : ¬ Opens (c :: t)) (hc : Letter c) :
    FirstSegment (c :: t) (Segment.cutWord c t).1 := by
  have hword : c :: t.takeWhile isWordPart = (c :: t).takeWhile isWordPart := by
    rw [List.takeWhile_cons_of_pos (isWordPart_iff.2 (Or.inl hc))]
  have hw : Word ((c :: t).takeWhile isWordPart) :=
    ⟨⟨c, by rw [← hword]; rfl, hc⟩, fun d hd => isWordPart_iff.1 (List.mem_takeWhile_imp hd)⟩
  simp only [Segment.cutWord, hword]
  refine FirstSegment.lexeme ho ⟨List.takeWhile_prefix _, ⟨_, _, Lexeme.word hw⟩, ?_⟩ (Lexeme.word hw)
  intro u hu hu'
  obtain ⟨v, rfl⟩ := hu'.exists_cons hu
  obtain ⟨k, l, hl⟩ := hu'
  obtain ⟨⟨-, hv⟩, -⟩ := hl.word_of_letter hc
  exact (begins_takeWhile hu fun e he => isWordPart_iff.2 (hv e he)).length_le

/-- A lexeme that begins with neither a digit nor a letter is a symbol of one or of two characters. -/
theorem isLexeme_cons_iff (hd : ¬ Digit c) (hl : ¬ Letter c) (u : List Char) :
    IsLexeme (c :: u) ↔
      (u = [] ∧ (Kind.ofSymbol? c).isSome) ∨ (u = ['='] ∧ (Kind.ofSymbolEqual? c).isSome) := by
  constructor
  · rintro ⟨k, l, h⟩
    rcases mem_symbols_iff.1 (h.symbol_of_not hd hl).1 with ⟨d, he, hk⟩ | ⟨d, he, hk⟩
    · obtain ⟨rfl, rfl⟩ := List.cons.inj he
      exact Or.inl ⟨rfl, by simp [hk]⟩
    · obtain ⟨rfl, rfl⟩ := List.cons.inj he
      exact Or.inr ⟨rfl, by simp [hk]⟩
  · rintro (⟨rfl, h⟩ | ⟨rfl, h⟩)
    · obtain ⟨k, hk⟩ := Option.isSome_iff_exists.1 h
      exact ⟨k, none, Lexeme.symbol (mem_symbols_iff.2 (Or.inl ⟨c, rfl, hk⟩))⟩
    · obtain ⟨k, hk⟩ := Option.isSome_iff_exists.1 h
      exact ⟨k, none, Lexeme.symbol (mem_symbols_iff.2 (Or.inr ⟨c, rfl, hk⟩))⟩

/-- A character by itself is the first segment where no lexeme of two characters begins with it. -/
theorem firstSegment_ofChar (ho : ¬ Opens (c :: t)) (hd : ¬ Digit c) (hl : ¬ Letter c)
    (htwo : ∀ k u, Kind.ofSymbolEqual? c = some k → t ≠ '=' :: u) :
    FirstSegment (c :: t) (Segment.ofChar c) := by
  have hone : ∀ u, c :: u <+: c :: t → IsLexeme (c :: u) → u = [] ∧ (Kind.ofSymbol? c).isSome := by
    intro u hu h
    rcases (isLexeme_cons_iff hd hl u).1 h with h | ⟨rfl, he⟩
    · exact h
    · obtain ⟨k, hk⟩ := Option.isSome_iff_exists.1 he
      obtain ⟨v, hv⟩ := (List.cons_prefix_cons.1 hu).2
      exact absurd hv.symm (htwo k v hk)
  unfold Segment.ofChar
  cases hk : Kind.ofSymbol? c with
  | some k =>
    have hlex : Lexeme [c] k none := Lexeme.symbol (mem_symbols_iff.2 (Or.inl ⟨c, rfl, hk⟩))
    refine FirstSegment.lexeme ho ⟨by simp, ⟨k, none, hlex⟩, ?_⟩ hlex
    intro u hu hu'
    obtain ⟨v, rfl⟩ := hu'.exists_cons hu
    obtain ⟨rfl, -⟩ := hone v hu hu'
    exact Nat.le_refl _
  | none =>
    refine FirstSegment.stray rfl ho ?_
    intro u hu hu'
    obtain ⟨v, rfl⟩ := hu'.exists_cons hu
    have h := (hone v hu hu').2
    simp [hk] at h

/-- A symbol reaches as far as a lexeme can. -/
theorem firstSegment_cutSymbol (ho : ¬ Opens (c :: t)) (hd : ¬ Digit c) (hl : ¬ Letter c) :
    FirstSegment (c :: t) (Segment.cutSymbol c t).1 := by
  unfold Segment.cutSymbol
  split
  · next k rest hk =>
    have hlex : Lexeme [c, '='] k none := Lexeme.symbol (mem_symbols_iff.2 (Or.inr ⟨c, rfl, hk⟩))
    refine FirstSegment.lexeme ho ⟨⟨rest, rfl⟩, ⟨k, none, hlex⟩, ?_⟩ hlex
    intro u hu hu'
    obtain ⟨v, rfl⟩ := hu'.exists_cons hu
    rcases (isLexeme_cons_iff hd hl v).1 hu' with ⟨rfl, -⟩ | ⟨rfl, -⟩ <;> simp
  · next hno => exact firstSegment_ofChar ho hd hl fun k u hk ht => hno k u hk ht

/-- Only a slash, a quote or a blank opens anything. -/
theorem not_opens_cons (hb : ¬ Blank c) (hq : c ≠ '"') (hs : c ≠ '/') : ¬ Opens (c :: t) := by
  rintro (h | h | h | ⟨d, hd, hd'⟩)
  · exact hs (List.cons_prefix_cons.1 h).1.symm
  · exact hs (List.cons_prefix_cons.1 h).1.symm
  · exact hq (List.cons_prefix_cons.1 h).1.symm
  · obtain rfl : c = d := by simpa using hd
    exact hb hd'

/-- A text in quotes ends with the next quote. -/
theorem firstSegment_cutText : FirstSegment ('"' :: t) (Segment.cutText t).1 := by
  have hbody : '"' ∉ t.takeWhile (· ≠ '"') := by
    intro h
    simpa using List.mem_takeWhile_imp h
  have happ := List.takeWhile_append_dropWhile (p := (· ≠ '"')) (l := t)
  simp only [Segment.cutText]
  split
  · next q rest hd =>
    have hq : q = '"' := by
      have := List.head?_dropWhile_not (· ≠ '"') t
      rw [hd] at this
      simpa using this
    subst hq
    rw [hd] at happ
    exact FirstSegment.quoted (by rw [happ]) hbody
  · next hd =>
    rw [hd, List.append_nil] at happ
    rw [happ]
    rw [happ] at hbody
    exact FirstSegment.openQuote rfl hbody

/-- What begins with a slash is a comment of one of two forms or the slash alone. -/
theorem firstSegment_cutSlash : FirstSegment ('/' :: t) (Segment.cutSlash t).1 := by
  unfold Segment.cutSlash
  split
  · next u =>
    have hrun := longest_line ('/' :: '/' :: u)
    exact FirstSegment.lineComment ⟨u, rfl⟩ (by simpa using hrun)
  · next u =>
    unfold Segment.cutBlockComment
    split
    · next body rest hc => exact FirstSegment.blockComment rfl (shortest_of_splitClose hc)
    · next hc => exact FirstSegment.openComment rfl (not_infix_of_splitClose hc)
  · next hline hblock =>
    refine firstSegment_ofChar ?_ (by decide) (by decide) ?_
    · rintro (⟨u, hu⟩ | ⟨u, hu⟩ | ⟨u, hu⟩ | ⟨d, hd, hd'⟩)
      · exact hline u (List.cons.inj hu).2.symm
      · exact hblock u (List.cons.inj hu).2.symm
      · exact absurd (List.cons.inj hu).1 (by decide)
      · obtain rfl : '/' = d := by simpa using hd
        exact absurd hd' (by decide)
    · intro k u hk
      cases hk

end Cut

/-- A cut gives the segment that the rule puts at the front. -/
theorem firstSegment_cut (c : Char) (t : List Char) : FirstSegment (c :: t) (Segment.cut c t).1 := by
  unfold Segment.cut
  split
  · next hblank => exact FirstSegment.blank rfl (isBlank_iff.1 hblank)
  next hblank =>
  have hb : ¬ Blank c := fun hb => hblank (isBlank_iff.2 hb)
  split
  · next hq => exact hq ▸ firstSegment_cutText
  next hq =>
  split
  · next hd =>
    have hc := isDigit_iff.1 hd
    exact firstSegment_cutNumber (not_opens_cons hb hq (by rintro rfl; exact absurd hc (by decide))) hc
  next hd =>
  split
  · next hl =>
    have hc := isWordStart_iff.1 hl
    exact firstSegment_cutWord (not_opens_cons hb hq (by rintro rfl; exact absurd hc (by decide))) hc
  next hl =>
  split
  · next hs => exact hs ▸ firstSegment_cutSlash
  · next hs =>
    exact firstSegment_cutSymbol (not_opens_cons hb hq hs) (fun h => hd (isDigit_iff.2 h)) fun h => hl (isWordStart_iff.2 h)

/-! ## There is one first segment only -/

/-- Where nothing is opened, the first segment is the longest lexeme or, where there is none, a fault of one character. -/
theorem FirstSegment.lexeme_or_stray {r : List Char} {s : Segment} (h : FirstSegment r s) (ho : ¬ Opens r) :
    (∃ text kind literal, s = ⟨text, .token kind literal⟩ ∧ Longest IsLexeme r text ∧ Lexeme text kind literal) ∨
      (∃ c t, s = ⟨[c], .fault (.unexpectedCharacter c)⟩ ∧ r = c :: t ∧ ∀ u, u <+: r → ¬ IsLexeme u) := by
  cases h with
  | lineComment hp _ => exact absurd (Or.inl hp) ho
  | blockComment hr _ => exact absurd (Or.inr (Or.inl (by simp [hr]))) ho
  | openComment hr _ => exact absurd (Or.inr (Or.inl (by simp [hr]))) ho
  | quoted hr _ => exact absurd (Or.inr (Or.inr (Or.inl (by simp [hr])))) ho
  | openQuote hr _ => exact absurd (Or.inr (Or.inr (Or.inl (by simp [hr])))) ho
  | blank hr hb => exact absurd (Or.inr (Or.inr (Or.inr ⟨_, by simp [hr], hb⟩))) ho
  | lexeme _ hl hlex => exact Or.inl ⟨_, _, _, rfl, hl, hlex⟩
  | stray hr _ hn => exact Or.inr ⟨_, _, rfl, hr, hn⟩

/-- Where nothing is opened, two first segments of one text are the same. -/
theorem FirstSegment.unique_of_not_opens {r : List Char} {s s' : Segment} (h : FirstSegment r s) (h' : FirstSegment r s')
    (ho : ¬ Opens r) : s = s' := by
  rcases h.lexeme_or_stray ho with ⟨text, k, l, rfl, hl, hlex⟩ | ⟨c, t, rfl, hr, hn⟩
  · rcases h'.lexeme_or_stray ho with ⟨text', k', l', rfl, hl', hlex'⟩ | ⟨-, -, -, -, hn'⟩
    · obtain rfl := hl.unique hl'
      obtain ⟨rfl, rfl⟩ := hlex.unique hlex'
      rfl
    · exact absurd hl.holds (hn' _ hl.begins)
  · rcases h'.lexeme_or_stray ho with ⟨text', -, -, -, hl', -⟩ | ⟨c', t', rfl, hr', -⟩
    · exact absurd hl'.holds (hn _ hl'.begins)
    · obtain rfl := (List.cons.inj (hr.symm.trans hr')).1
      rfl

theorem cut_slash (t : List Char) : Segment.cut '/' t = Segment.cutSlash t := rfl

theorem cut_quote (t : List Char) : Segment.cut '"' t = Segment.cutText t := rfl

/-- The segment that the rule puts at the front is the one that a cut gives. -/
theorem FirstSegment.eq_cut {c : Char} {t : List Char} {s : Segment} (h : FirstSegment (c :: t) s) :
    s = (Segment.cut c t).1 := by
  have hcut := firstSegment_cut c t
  cases h with
  | @lineComment text hp hl =>
    obtain ⟨u, hu⟩ := hp
    obtain ⟨rfl, rfl⟩ := List.cons.inj hu
    rw [hl.unique (longest_line _)]
    simp [cut_slash, Segment.cutSlash, Segment.cutLineComment]
  | @blockComment u body hr hs =>
    obtain ⟨rfl, rfl⟩ := List.cons.inj hr
    cases hc : splitClose u with
    | some p =>
      obtain rfl := hs.unique (shortest_of_splitClose hc)
      simp [cut_slash, Segment.cutSlash, Segment.cutBlockComment, hc]
    | none => exact absurd (hs.holds.isInfix.trans hs.begins.isInfix) (not_infix_of_splitClose hc)
  | @openComment u hr hn =>
    obtain ⟨rfl, rfl⟩ := List.cons.inj hr
    cases hc : splitClose u with
    | some p =>
      have hs := shortest_of_splitClose hc
      exact absurd (hs.holds.isInfix.trans hs.begins.isInfix) hn
    | none => simp [cut_slash, Segment.cutSlash, Segment.cutBlockComment, hc]
  | @quoted body rest hr hq =>
    obtain ⟨rfl, rfl⟩ := List.cons.inj hr
    have hb : ∀ d ∈ body, (!decide (d = '"')) = true := by
      intro d hd
      simpa using ne_of_mem_of_not_mem hd hq
    simp [cut_quote, Segment.cutText, List.takeWhile_append_of_pos hb, List.dropWhile_append_of_pos hb]
  | @openQuote body hr hq =>
    obtain ⟨rfl, rfl⟩ := List.cons.inj hr
    have hb : ∀ d ∈ t, (!decide (d = '"')) = true := by
      intro d hd
      simpa using ne_of_mem_of_not_mem hd hq
    simp [cut_quote, Segment.cutText, List.takeWhile_eq_self_iff.2 hb, List.dropWhile_eq_nil_iff.2 hb]
  | @blank d u hr hb =>
    obtain ⟨rfl, rfl⟩ := List.cons.inj hr
    simp [Segment.cut, isBlank_iff.2 hb]
  | lexeme ho hl hlex => exact (FirstSegment.lexeme ho hl hlex).unique_of_not_opens hcut ho
  | stray hr ho hn => exact (FirstSegment.stray hr ho hn).unique_of_not_opens hcut ho

/-- A text that is not empty has exactly one first segment. -/
theorem firstSegment_iff {c : Char} {t : List Char} {s : Segment} :
    FirstSegment (c :: t) s ↔ s = (Segment.cut c t).1 :=
  ⟨FirstSegment.eq_cut, fun h => h ▸ firstSegment_cut c t⟩

/-- The empty text has no first segment. -/
theorem not_firstSegment_nil (s : Segment) : ¬ FirstSegment [] s := by
  intro h
  cases h with
  | lineComment hp _ => simp at hp
  | blockComment hr _ => cases hr
  | openComment hr _ => cases hr
  | quoted hr _ => cases hr
  | openQuote hr _ => cases hr
  | blank hr _ => cases hr
  | lexeme _ hl hlex => exact hlex.ne_nil (List.prefix_nil.1 hl.begins)
  | stray hr _ _ => cases hr

/-! ## The faults of a first segment -/

/-- A fault that takes in the rest of a source: a text in quotes or a comment without its end. -/
def Fault.Unterminated (f : Fault) : Prop := f = .unterminatedString ∨ f = .unterminatedComment

instance (f : Fault) : Decidable f.Unterminated := inferInstanceAs (Decidable (_ ∨ _))

theorem Fault.not_unterminated_stray (c : Char) : ¬ (Fault.unexpectedCharacter c).Unterminated := by
  rintro (h | h) <;> cases h

/-- A text that opens nothing begins with no blank. -/
theorem not_blank_of_not_opens {c : Char} {t : List Char} (ho : ¬ Opens (c :: t)) : ¬ Blank c := by
  intro hb
  exact ho (Or.inr (Or.inr (Or.inr ⟨c, rfl, hb⟩)))

/-- A fault is either one character that is not blank or all of the text that is left. -/
theorem FirstSegment.stray_or_unterminated {r : List Char} {s : Segment} {f : Fault} (h : FirstSegment r s)
    (hf : s.yield = .fault f) :
    (∃ c, f = .unexpectedCharacter c ∧ s.text = [c] ∧ ¬ Blank c) ∨ (f.Unterminated ∧ s.text = r) := by
  cases h with
  | openComment => exact Or.inr ⟨Or.inr (Yield.fault.inj hf).symm, rfl⟩
  | openQuote => exact Or.inr ⟨Or.inl (Yield.fault.inj hf).symm, rfl⟩
  | @stray c t hr ho => exact Or.inl ⟨c, (Yield.fault.inj hf).symm, rfl, not_blank_of_not_opens (hr ▸ ho)⟩
  | _ => cases hf

/-- A stray character is the whole text of its segment, and not blank. -/
theorem FirstSegment.eq_stray {r : List Char} {s : Segment} {c : Char} (h : FirstSegment r s)
    (hf : s.yield = .fault (.unexpectedCharacter c)) : s.text = [c] ∧ ¬ Blank c := by
  rcases h.stray_or_unterminated hf with ⟨d, hd, ht, hb⟩ | ⟨hu, -⟩
  · cases hd
    exact ⟨ht, hb⟩
  · exact absurd hu (Fault.not_unterminated_stray c)

end Loxeme
