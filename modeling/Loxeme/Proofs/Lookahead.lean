import Loxeme.Proofs.Following
import Loxeme.Proofs.Located

/-!
# How far a scan looks ahead

A lexeme grows by one or two characters at a time: by two where a number gets a point, and by one everywhere else
(`IsLexeme.grows`). So the two characters behind a segment decide that it ends there (`FirstSegment.of_take_two`), and whatever
follows a text, a scan tells of the same things in it but for its last two characters (`settled_segments_eq`).
-/

namespace Loxeme

variable {text rest rest' v w f : List Char} {c d : Char} {s : Segment}

/-! ## Lexemes grow in short steps -/

/-- A text is a lexeme together with the next one or two characters. -/
def Grows (text v : List Char) : Prop := ∃ u, u <+: v ∧ u ≠ [] ∧ u.length ≤ 2 ∧ IsLexeme (text ++ u)

theorem Grows.one (h : IsLexeme (text ++ [c])) (v : List Char) : Grows text (c :: v) :=
  ⟨[c], ⟨v, rfl⟩, by simp, by simp, h⟩

theorem Grows.two (h : IsLexeme (text ++ [c, d])) (v : List Char) : Grows text (c :: d :: v) :=
  ⟨[c, d], ⟨v, rfl⟩, by simp, by simp, h⟩

/-- The beginning of a run of digits that is not empty is such a run. -/
theorem Digits.of_begins (h : Digits v) (hw : w <+: v) (hne : w ≠ []) : Digits w :=
  ⟨hne, fun c hc => h.2 c (hw.subset hc)⟩

/-- What begins a word and is followed by more of it grows. -/
theorem Word.grows (h : Word (text ++ c :: v)) (ht : text ≠ []) : Grows text (c :: v) := by
  obtain ⟨⟨d, hd, hl⟩, hw⟩ := h
  have hbegins : text ++ [c] <+: text ++ c :: v := (List.prefix_append_right_inj text).2 ⟨v, rfl⟩
  refine Grows.one ⟨_, _, Lexeme.word ⟨⟨d, ?_, hl⟩, fun e he => hw e (hbegins.subset he)⟩⟩ v
  obtain ⟨a, t, rfl⟩ := List.exists_cons_of_ne_nil ht
  exact hd

/-- What begins a run of digits and is followed by more of it grows, whatever stands behind. -/
theorem Digits.grows (h : Digits w) (hw : text ++ [c] <+: w) (v : List Char) : Grows text (c :: v) :=
  Grows.one ⟨_, _, Lexeme.whole (h.of_begins hw (by simp))⟩ v

/-- What begins a number with a point and is followed by more of it grows. -/
theorem grows_of_pointed (hw : Digits w) (hf : Digits f) (h : text ++ v = w ++ '.' :: f) (hv : v ≠ []) : Grows text v := by
  have hpoint : text = w → v = '.' :: f → Grows text v := by
    rintro rfl rfl
    obtain ⟨d, g, rfl⟩ := List.exists_cons_of_ne_nil hf.1
    exact Grows.two ⟨_, _, Lexeme.pointed hw (hf.of_begins ⟨g, rfl⟩ (by simp))⟩ g
  -- `text` ends in front of the point, or it does not
  rcases List.append_eq_append_iff.1 h with ⟨a, hwa, hva⟩ | ⟨b, htb, hvb⟩
  · cases a with
    | nil => exact hpoint (by simpa using hwa.symm) hva
    | cons c a =>
      rw [hva]
      exact hw.grows ⟨a, by simp [hwa]⟩ _
  · cases b with
    | nil => exact hpoint (by simpa using htb) hvb.symm
    | cons c b =>
      obtain ⟨rfl, rfl⟩ := List.cons.inj hvb
      obtain ⟨d, u, rfl⟩ := List.exists_cons_of_ne_nil hv
      have hdigits : Digits (b ++ [d]) := hf.of_begins ((List.prefix_append_right_inj b).2 ⟨u, rfl⟩) (by simp)
      refine Grows.one ?_ u
      rw [htb, List.append_assoc]
      exact ⟨_, _, Lexeme.pointed hw hdigits⟩

/-- What begins a lexeme and is followed by more of it grows. -/
theorem IsLexeme.grows (h : IsLexeme (text ++ v)) (ht : text ≠ []) (hv : v ≠ []) : Grows text v := by
  obtain ⟨k, l, hl⟩ := h
  rcases hl.symbol_or_number_or_word with ⟨hs, -⟩ | ⟨w, f, hw, hf, he, -⟩ | ⟨hw, -⟩
  · -- a symbol has two characters at most, so its end is short itself
    refine ⟨v, List.prefix_rfl, hv, ?_, k, l, hl⟩
    have hlen : (text ++ v).length ≤ 2 := by
      rcases mem_symbols_iff.1 hs with ⟨c, hc, -⟩ | ⟨c, hc, -⟩ <;> simp [hc]
    rw [List.length_append] at hlen
    omega
  · obtain ⟨c, u, rfl⟩ := List.exists_cons_of_ne_nil hv
    rcases hf with rfl | hf
    · rw [Decimal.pointed, if_pos rfl] at he
      exact hw.grows ⟨u, by simp [← he]⟩ u
    · rw [Decimal.pointed, if_neg hf.1] at he
      exact grows_of_pointed hw hf he hv
  · obtain ⟨c, u, rfl⟩ := List.exists_cons_of_ne_nil hv
    exact hw.grows ht

/-- Two characters decide whether a text that is not empty stops before them. -/
theorem Stops.of_take_two (h : Stops text rest) (ht : text ≠ []) (htwo : rest.take 2 = rest'.take 2) : Stops text rest' := by
  have hhead : rest'.head? = rest.head? := by
    have he := congrArg List.head? htwo
    simpa [List.head?_take] using he.symm
  refine ⟨by rw [hhead]; exact h.line, by rw [hhead]; exact h.slash, ?_⟩
  intro v hv hl
  by_contra hne
  obtain ⟨u, hu, hune, hlen, hul⟩ := hl.grows ht hne
  have hu' : u <+: rest.take 2 := htwo ▸ List.prefix_take_iff.2 ⟨hu.trans hv, hlen⟩
  exact hune (h.lexeme u (List.prefix_take_iff.1 hu').1 hul)

/-- A segment that has an end is the first one in front of every text that begins with the same two characters. -/
theorem FirstSegment.of_take_two (h : FirstSegment (s.text ++ rest) s) (ht : s.text ≠ []) (hclosed : ¬ s.Open)
    (htwo : rest.take 2 = rest'.take 2) : FirstSegment (s.text ++ rest') s :=
  h.of_stops hclosed (h.stops.of_take_two ht htwo)

/-! ## Two texts with the same beginning -/

/-- The segment at the front of a text is the first one of it. -/
theorem firstSegment_of_segments {r : List Char} {l : List Segment} (h : segments r = s :: l) :
    FirstSegment (s.text ++ l.flatMap Segment.text) s := by
  have hseg := segmented_iff.2 h.symm
  cases hseg with
  | cons hfirst hrest => rwa [hrest.text_eq]

/-- A segment that ends at least two characters before the end of a beginning is cut off whatever follows that. -/
theorem segments_of_settled {p x : List Char} {l : List Segment} (h : segments (p ++ x) = s :: l)
    (hs : s.text.length + 2 ≤ p.length) :
    ∃ p', p = s.text ++ p' ∧ ∀ y, segments (p ++ y) = s :: segments (p' ++ y) := by
  have hr : s.text ++ l.flatMap Segment.text = p ++ x := by rw [← text_segments (p ++ x), h, List.flatMap_cons]
  obtain ⟨p', rfl⟩ : s.text <+: p := List.prefix_of_prefix_length_le ⟨_, hr⟩ ⟨x, rfl⟩ (by omega)
  have hrest : l.flatMap Segment.text = p' ++ x := by simpa using hr
  have hfirst := firstSegment_of_segments h
  have hlen : 2 ≤ p'.length := by simpa using hs
  have hne : s.text ≠ [] := text_ne_nil_of_mem_segments (h ▸ List.mem_cons_self)
  have hclosed : ¬ s.Open := by
    intro ho
    have hnil := hfirst.eq_nil_of_open ho
    rw [hrest, List.append_eq_nil_iff] at hnil
    simp [hnil.1] at hlen
  refine ⟨p', rfl, ?_⟩
  intro y
  rw [List.append_assoc]
  refine segments_of_firstSegment (hfirst.of_take_two hne hclosed ?_)
  rw [hrest, List.take_append_of_le_length hlen, List.take_append_of_le_length hlen]

/-- Whether something that a scan tells of ends at least two characters before an offset. -/
def Located.settled (n : Nat) (a : Located) : Bool := a.stop + 2 ≤ n

/-- Behind a segment that does not end two characters before an offset nothing does. -/
theorem filter_settled_eq_nil {before : List Char} {l : List Segment} {n : Nat}
    (h : ∀ s ∈ l.head?, n < before.length + s.text.length + 2) : (locatedFrom before l).filter (Located.settled n) = [] := by
  cases l with
  | nil => rfl
  | cons s l =>
    have hs := h s rfl
    rw [List.filter_eq_nil_iff]
    intro a ha
    have hstop : before.length + s.text.length ≤ a.stop := by
      rcases mem_locatedFrom_cons.1 ha with ha | ha
      · obtain ⟨hstart, htext, -⟩ := Occurrence.located?_eq_some ha
        rw [Located.stop, hstart, htext]
      · have hle := le_start_of_mem ha
        rw [List.length_append] at hle
        exact hle.trans (Nat.le_add_right _ _)
    simp only [Located.settled, decide_eq_true_eq]
    omega

/-- What is told of a first segment does not depend on what follows it. -/
theorem located?_eq_of_first {before : List Char} (h : FirstSegment (s.text ++ rest) s) (h' : FirstSegment (s.text ++ rest') s) :
    Occurrence.located? ⟨before, s, rest⟩ = Occurrence.located? ⟨before, s, rest'⟩ := by
  have hp : (⟨0, 1 + newlines before⟩ : Position).line = 1 + newlines before := rfl
  rw [Occurrence.located?, Occurrence.located?, ← event?_place h hp, ← event?_place h' hp]

/-- Of two texts with the same beginning the same is told up to the last two characters of the beginning. -/
theorem settled_segments_eq {before p : List Char} {n : Nat} (hn : before.length + p.length = n) (x y : List Char) :
    (locatedFrom before (segments (p ++ x))).filter (Located.settled n) =
      (locatedFrom before (segments (p ++ y))).filter (Located.settled n) := by
  induction hl : segments (p ++ x) generalizing before p with
  | nil =>
    obtain ⟨rfl, -⟩ : p = [] ∧ x = [] := by
      rw [← List.append_eq_nil_iff, ← text_segments (p ++ x), hl]
      rfl
    rw [filter_settled_eq_nil (l := segments ([] ++ y))]
    · rfl
    · intro s _
      rw [List.length_nil] at hn
      omega
  | cons s l ih =>
    by_cases hs : s.text.length + 2 ≤ p.length
    · obtain ⟨p', rfl, hseg⟩ := segments_of_settled hl hs
      have hx := hseg x
      rw [hl] at hx
      obtain ⟨-, rfl⟩ := List.cons.inj hx
      have hlen : (before ++ s.text).length + p'.length = n := by
        rw [List.length_append] at hn ⊢
        omega
      rw [hseg y, locatedFrom_cons, locatedFrom_cons, List.filter_append, List.filter_append, ih hlen rfl,
        located?_eq_of_first (firstSegment_of_segments hl) (firstSegment_of_segments (hseg y))]
    · -- neither text has a segment here that ends early enough
      rw [filter_settled_eq_nil, filter_settled_eq_nil]
      · intro s' hs'
        by_contra hle
        obtain ⟨m, hm⟩ := List.head?_eq_some_iff.1 hs'
        obtain ⟨p', -, hseg⟩ := segments_of_settled hm (by omega)
        have hx := hseg x
        rw [hl] at hx
        obtain ⟨rfl, -⟩ := List.cons.inj hx
        omega
      · intro s' hs'
        obtain rfl := Option.some.inj hs'
        omega

/-- What a scan tells of in a beginning `p` of a source, up to its last two characters: all that stands in the source, from the
beginning on, and ends at least two characters before the end of `p`. -/
def settledLocated (p source : String) : List Located := (located source).filter (Located.settled p.length)

/-- Whatever follows a text, a scan tells of the same tokens and stray characters in it, in the same places and on the same
lines, if they end at least two characters before its end. -/
theorem scan_settled (p x y : String) :
    (∀ source, Locates source (located source)) ∧
      settledLocated p (p ++ x) = settledLocated p (p ++ y) ∧
      ∀ a ∈ settledLocated p (p ++ x), (∃ t, a.event = .token t) ∨ ∃ c line, a.event = .fault ⟨.unexpectedCharacter c, line⟩ := by
  refine ⟨locates_located, ?_, ?_⟩
  · have hn : ([] : List Char).length + p.toList.length = p.length := by
      rw [List.length_nil, Nat.zero_add, String.length_toList]
    have h := settled_segments_eq hn x.toList y.toList
    rwa [← String.toList_append, ← String.toList_append] at h
  · intro a ha
    obtain ⟨hmem, hsettled⟩ := List.mem_filter.1 ha
    have hin := in_of_mem_located hmem
    obtain ⟨start, text, event⟩ := a
    cases event with
    | token t => exact Or.inl ⟨t, rfl⟩
    | fault d =>
      by_cases hstray : ∃ c, d.fault = .unexpectedCharacter c
      · obtain ⟨c, hc⟩ := hstray
        exact Or.inr ⟨c, d.line, by rw [← hc]⟩
      · -- what has no end goes on to the end of the source, which is not in front of the end of `p`
        obtain ⟨-, hstop⟩ := hin.unterminated d rfl fun c hc => hstray ⟨c, hc⟩
        rw [Located.settled, decide_eq_true_iff, hstop, String.length_append] at hsettled
        omega

/-- One character is not enough: behind `1.` a digit decides what the number is. -/
example : (located ("1." ++ "5")).filter (fun a => a.stop + 1 ≤ 2) ≠ (located ("1." ++ "x")).filter (fun a => a.stop + 1 ≤ 2) := by
  decide +kernel

end Loxeme
