import Loxeme.Proofs.Reading

/-!
# A cursor stays in its source

The loop of a scan comes to one cursor after the other (`Cursor.Reached`). What lies in front of each, what it has taken and
what remains is the source, so its offsets are boundaries of characters in it and in order, and no step asks for a slice that
is not there. A step takes at least one character: a number and a word go on from where their first character begins, but
their pattern finds at least that character there. So the loop ends behind the last character, and before that it has not
come by more often than there are characters.
-/

namespace Loxeme

namespace Cursor

variable {σ : Type} {source : String} {report : σ → Diagnostic → σ} {sink : σ} {before text rest : List Char} {c : Char}
  {s s' : Cursor σ} {n : Nat}

/-- The cursors that the loop of a scan comes to, with the number of steps taken. -/
inductive Reached (report : σ → Diagnostic → σ) (source : String) (sink : σ) : Nat → Cursor σ → Prop where
  | initial : Reached report source sink 0 { sink := sink }
  | step {n : Nat} {s s' : Cursor σ} : Reached report source sink n s → s.atEnd source = false →
      s.step source report = some s' → Reached report source sink (n + 1) s'

/-- Offsets that are boundaries of the source and in order. -/
structure InBounds (source : String) (s : Cursor σ) : Prop where
  /-- The piece under way begins no later than what has been taken ends. -/
  start_le : s.start ≤ s.current
  /-- No more has been taken than there is. -/
  current_le : s.current ≤ source.utf8ByteSize
  /-- The piece begins with a character. -/
  start_boundary : IsBoundary source s.start
  /-- Characters have been taken whole. -/
  current_boundary : IsBoundary source s.current

/-- A pattern finds something where the piece under way begins: the longest text of its language there, which reaches at least
as far as what has been taken. -/
def Finds (source : String) (pattern : List Char → Option (List Char)) (language : List Char → Prop) (s : Cursor σ) : Prop :=
  ∃ rest text, restFrom source s.start = some rest ∧ pattern rest = some text ∧ Longest language rest text ∧
    s.current ≤ s.start + byteLength text

/-- Behind a quote the source is taken up to the next one, if there is one, and then the text between the two is a slice of
the source. -/
def TakesText (source : String) (s : Cursor σ) : Prop :=
  ∃ e, s.skipText source = some e ∧
    (e.atEnd source = false → ∃ e', e.advance source = some (some '"', e') ∧
      e'.start + 1 ≤ e'.current - 1 ∧ (slice? source (e'.start + 1) (e'.current - 1)).isSome)

/-- A step from one cursor to another, which takes a character and then what begins with it. -/
structure Takes (source : String) (report : σ → Diagnostic → σ) (s s' : Cursor σ) (c : Char) (taken : Cursor σ) : Prop where
  /-- The character is taken first. -/
  advance_eq : s.begun.advance source = some (some c, taken)
  /-- Then what begins with it is taken. -/
  read_eq : taken.read source report c = some s'
  /-- The character moves the cursor forward. -/
  current_lt : s.current < taken.current
  /-- What begins with it does not move the cursor back. -/
  current_le : taken.current ≤ s'.current
  /-- A quote begins a text. -/
  text : c = '"' → taken.TakesText source
  /-- A digit begins a number, which the pattern for numbers finds. -/
  number : c.isDigit → taken.readNumber source report = some s' ∧ taken.Finds source numberAt? Numeral
  /-- A letter begins a word, which the pattern for words finds. -/
  word : isWordStart c → taken.readWord source = some s' ∧ taken.Finds source wordAt? Word

/-! ## Steps -/

/-- A beginning that is not empty takes in the first character. -/
theorem le_byteLength_of_begins {t u : List Char} (h : u <+: c :: t) (hne : u ≠ []) : c.utf8Size ≤ byteLength u := by
  cases u with
  | nil => exact absurd rfl hne
  | cons d u =>
    obtain rfl := (List.cons_prefix_cons.1 h).1
    exact Nat.le_add_right _ _

namespace At

theorem inBounds (h : At source before text rest s) : s.InBounds source where
  start_le := by
    rw [h.start_eq, h.current_eq]
    exact Nat.le_add_right _ _
  current_le := by
    rw [h.size_eq]
    exact Nat.le_add_right _ _
  start_boundary := isBoundary_iff.2 ⟨before, text ++ rest, by rw [h.source_eq, List.append_assoc], h.start_eq⟩
  current_boundary := isBoundary_iff.2 ⟨before ++ text, rest, h.source_eq, by rw [h.current_eq, byteLength_append]⟩

/-- Where the source has not been taken whole there is a next character. -/
theorem exists_cons (h : At source before text rest s) (hend : s.atEnd source = false) : ∃ c t, rest = c :: t := by
  rw [h.atEnd_eq] at hend
  exact List.exists_cons_of_ne_nil (by rintro rfl; cases hend)

theorem finds {pattern : List Char → Option (List Char)} {language : List Char → Prop} {t u : List Char}
    (h : At source before [] (c :: t) s) (hpattern : pattern (c :: t) = some u) (hu : Longest language (c :: t) u) (hne : u ≠ []) :
    (s.ahead c).Finds source pattern language := by
  refine ⟨c :: t, u, h.restFrom_start_eq, hpattern, hu, ?_⟩
  have hle := le_byteLength_of_begins hu.begins hne
  have hstart := h.start_eq
  have hcurrent := h.current_eq
  simp only [Cursor.ahead, byteLength_nil] at hcurrent ⊢
  omega

theorem takesText {t : List Char} (h : At source before [] ('"' :: t) s) : (s.past ['"']).TakesText source := by
  have hopen := h.past_cons
  have hbody := hopen.body
  refine ⟨s.past ('"' :: t.takeWhile (· ≠ '"')), hopen.skipText_eq.trans (by rw [past_past]; rfl), ?_⟩
  intro hend
  obtain ⟨q, rest, hd⟩ := hbody.exists_cons hend
  obtain rfl := eq_quote_of_dropWhile hd
  rw [hd] at hbody
  obtain ⟨hadvance, hclosed⟩ := hbody.close
  have hslice := Option.isSome_of_eq_some hclosed.slice?_quoted
  exact ⟨_, hadvance, (slice?_isSome_iff.1 hslice).1, hslice⟩

theorem takes {t : List Char} (h : At source before text (c :: t) s) (report : σ → Diagnostic → σ) :
    Takes source report s (s.begun.behind report (Segment.cut c t).1) c (s.begun.ahead c) where
  advance_eq := h.begun.advance_eq
  read_eq := h.begun.read_eq
  current_lt := Nat.lt_add_of_pos_right c.utf8Size_pos
  current_le := by
    have hle := le_byteLength_of_begins ⟨_, Segment.cut_append c t⟩ (Segment.text_cut_ne_nil c t)
    rw [current_behind]
    exact Nat.add_le_add_left hle _
  text := by
    rintro rfl
    rw [ahead_eq_past (by decide)]
    exact h.begun.takesText
  number := by
    intro hc
    have hc := isDigit_iff.1 hc
    have hne : c ≠ '\n' := by
      rintro rfl
      exact absurd hc (by decide)
    refine ⟨?_, h.begun.finds (numberAt?_eq hc) (numberAt?_eq_some_iff.1 (numberAt?_eq hc)) (Segment.pointed_ne_nil _ _ _)⟩
    rw [ahead_eq_past hne, cut_of_digit hc]
    exact h.begun.readNumber_eq hc
  word := by
    intro hc
    have hc := isWordStart_iff.1 hc
    have hne : c ≠ '\n' := by
      rintro rfl
      exact absurd hc (by decide)
    refine ⟨?_, h.begun.finds (wordAt?_eq hc) (wordAt?_eq_some_iff.1 (wordAt?_eq hc)) (List.cons_ne_nil _ _)⟩
    rw [ahead_eq_past hne, cut_of_letter hc]
    exact h.begun.readWord_eq hc

end At

/-- A cursor that the loop comes to stands in the source, and has taken a character for every step. -/
theorem Reached.exists_at (h : Reached report source sink n s) :
    ∃ before text rest, At source before text rest s ∧ n ≤ (before ++ text).length := by
  induction h with
  | initial => exact ⟨[], [], source.toList, at_initial source sink .error [], Nat.zero_le _⟩
  | @step n s s' _ hend hstep ih =>
    obtain ⟨before, text, rest, hat, hn⟩ := ih
    obtain ⟨c, t, rfl⟩ := hat.exists_cons hend
    rw [hat.step_eq] at hstep
    obtain rfl := Option.some.inj hstep
    have hpos := List.length_pos_iff.2 (Segment.text_cut_ne_nil c t)
    refine ⟨_, _, _, hat.next, ?_⟩
    rw [List.length_append]
    omega

/-- The loop comes behind each of the segments of what remains, and at last to the end of the source. -/
theorem Reached.behindAll (h : Reached report source sink n s) (hat : At source before text rest s) :
    ∃ m, Reached report source sink m (s.behindAll report (segments rest)) ∧
      (s.behindAll report (segments rest)).current = source.utf8ByteSize := by
  fun_induction segments rest generalizing before text s n with
  | case1 => exact ⟨n, h, by rw [hat.size_eq]; rfl⟩
  | case2 c t ih => exact ih (h.step (by rw [hat.atEnd_eq]; rfl) hat.step_eq) hat.next

end Cursor

/-- Every cursor that the loop of a scan comes to, and begins a piece at, is in the bounds of the source, and the loop comes to
no more of them than the source has characters. From each there is a step until the source has been taken whole, which takes at
least one character. So the loop comes to the end of the source, and the scan has a result, which is that of the segments. -/
theorem scan_in_bounds {σ : Type} (report : σ → Diagnostic → σ) (source : String) (sink : σ) :
    (∀ n s, Cursor.Reached report source sink n s →
      n ≤ source.length ∧ s.InBounds source ∧ s.begun.InBounds source ∧
        (s.current < source.utf8ByteSize →
          ∃ s' c taken, s.step source report = some s' ∧ s.current < s'.current ∧ Cursor.Takes source report s s' c taken)) ∧
      (∃ n s, Cursor.Reached report source sink n s ∧ s.current = source.utf8ByteSize ∧
        scanInto report source sink = some (s.ended.tokens, s.sink)) ∧
      scanInto report source sink = some (tokens source, (diagnostics source).foldl report sink) := by
  refine ⟨?_, ?_, scanInto_eq report source sink⟩
  · intro n s h
    obtain ⟨before, text, rest, hat, hn⟩ := h.exists_at
    refine ⟨?_, hat.inBounds, hat.begun.inBounds, ?_⟩
    · have hlength := congrArg List.length hat.source_eq
      rw [String.length_toList, List.length_append] at hlength
      omega
    · intro hlt
      obtain ⟨c, t, rfl⟩ := hat.exists_cons (by simpa [Cursor.atEnd] using hlt)
      have htakes := hat.takes report
      exact ⟨_, c, _, hat.step_eq, Nat.lt_of_lt_of_le htakes.current_lt htakes.current_le, htakes⟩
  · have hat := Cursor.at_initial source sink .error []
    obtain ⟨n, h, hcurrent⟩ := (@Cursor.Reached.initial σ report source sink).behindAll hat
    refine ⟨n, _, h, hcurrent, ?_⟩
    rw [scanInto, hat.run_eq]
    rfl

end Loxeme
