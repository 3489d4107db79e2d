import Loxeme.Proofs.Segmentation
import Loxeme.Proofs.Slices

/-!
# Reading a source with a cursor

Where a cursor stands is three texts: what lies in front of the piece under way, what has been taken of that piece, and what
remains (`Cursor.At`). Everything a cursor looks at is one of them, so each of its actions has a result, which is stated here
in the terms of the three texts. What is found is told of in all outputs at once (`told_eq`). A step takes the segment that a cut
gives (`At.step_eq`), a run goes through the segments of what remains, and so it gives the tokens of the source, reports its
diagnostics in their order and writes the notes that are asked for (`run_initial`), whatever the sink (`scanInto_eq`).
-/

namespace Loxeme

theorem newlines_singleton {c : Char} (h : c ≠ '\n') : newlines [c] = 0 := by
  simp [newlines_cons, h]

theorem Lexeme.newlines_eq {t : List Char} {k : Kind} {l : Option Literal} (h : Lexeme t k l) : newlines t = 0 :=
  List.count_eq_zero.2 fun hm => h.not_blank _ hm blank_newline

/-- What stops a run of characters other than a quote is a quote. -/
theorem eq_quote_of_dropWhile {t rest : List Char} {q : Char} (h : t.dropWhile (· ≠ '"') = q :: rest) : q = '"' := by
  have hq := List.head?_dropWhile_not (· ≠ '"') t
  rw [h] at hq
  simpa using hq

theorem byteLength_pos {t : List Char} (h : t ≠ []) : 0 < byteLength t := by
  cases t with
  | nil => exact absurd rfl h
  | cons c t => exact Nat.add_pos_left c.utf8Size_pos _

namespace Cursor

variable {σ : Type} {source : String} {report : σ → Diagnostic → σ} {before text rest : List Char} {c : Char} {s : Cursor σ}

/-- The cursor behind a further character, with its line not yet counted. -/
def ahead (s : Cursor σ) (c : Char) : Cursor σ := { s with current := s.current + c.utf8Size }

/-- The cursor behind a further text. -/
def past (s : Cursor σ) (t : List Char) : Cursor σ :=
  { s with current := s.current + byteLength t, line := s.line + newlines t }

/-- The cursor when it has told of an event, if there is one. -/
def told (report : σ → Diagnostic → σ) (s : Cursor σ) : Option Event → Cursor σ
  | none => s
  | some (.token t) => s.add t
  | some (.fault d) => s.handOver report d

/-- The cursor behind a segment, when it has told of what that gives. -/
def behind (report : σ → Diagnostic → σ) (s : Cursor σ) (seg : Segment) : Cursor σ :=
  (s.past seg.text).told report (seg.event? (s.past seg.text).line)

/-- Where a cursor stands in a source: the piece under way begins behind the first text, the second is what has been taken of
it, and the third is what remains. -/
structure At (source : String) (before text rest : List Char) (s : Cursor σ) : Prop where
  /-- The three texts are the source. -/
  source_eq : source.toList = before ++ text ++ rest
  /-- The piece begins behind the first. -/
  start_eq : s.start = byteLength before
  /-- The second has been taken. -/
  current_eq : s.current = byteLength before + byteLength text

@[simp] theorem past_past (s : Cursor σ) (t u : List Char) : (s.past t).past u = s.past (t ++ u) := by
  simp [past, Nat.add_assoc]

/-- Only a line feed has a line to be counted. -/
theorem ahead_eq_past (h : c ≠ '\n') (s : Cursor σ) : s.ahead c = s.past [c] := by
  rw [past, newlines_singleton h]
  rfl

@[simp] theorem past_nil (s : Cursor σ) : s.past [] = s := rfl

/-- A note is written as far as the level of detail asks for it, and nothing else changes. -/
theorem note_eq (n : Note) (s : Cursor σ) : s.note n = { s with notes := s.notes ++ notesUpTo s.level [n] } := by
  unfold note notesUpTo
  split
  · next h => simp [h]
  · next h => simp [h]

/-- What is told of goes to the output that it is for and, as far as the level of detail asks for it, into the notes. -/
theorem told_eq (s : Cursor σ) (e : Option Event) :
    s.told report e = { s with
      tokens := s.tokens ++ e.toList.filterMap Event.token?
      sink := (e.toList.filterMap Event.diagnostic?).foldl report s.sink
      notes := s.notes ++ notesUpTo s.level (e.toList.map Note.ofEvent) } := by
  cases e with
  | none => simp [told, notesUpTo]
  | some e =>
    cases e with
    | token t => simp [told, add, note_eq, List.filterMap_cons, Event.token?, Event.diagnostic?, Note.ofEvent]
    | fault d => simp [told, handOver, note_eq, List.filterMap_cons, Event.token?, Event.diagnostic?, Note.ofEvent]

/-! ## Looking at the source -/

namespace At

theorem past {t : List Char} (h : At source before text (t ++ rest) s) : At source before (text ++ t) rest (s.past t) where
  source_eq := by simp [h.source_eq]
  start_eq := h.start_eq
  current_eq := by simp [Cursor.past, h.current_eq, Nat.add_assoc]

theorem past_append {t u : List Char} (h : At source before [] t s) (ht : u ++ rest = t) : At source before u rest (s.past u) :=
  @At.past _ _ _ [] _ _ u (ht.symm ▸ h)

theorem past_cons (h : At source before text (c :: rest) s) : At source before (text ++ [c]) rest (s.past [c]) :=
  h.past (t := [c])

theorem size_eq (h : At source before text rest s) : source.utf8ByteSize = s.current + byteLength rest := by
  rw [utf8ByteSize_eq, h.source_eq, h.current_eq, byteLength_append, byteLength_append]

theorem atEnd_eq (h : At source before text rest s) : s.atEnd source = rest.isEmpty := by
  rw [Bool.eq_iff_iff, List.isEmpty_iff, atEnd, decide_eq_true_iff, h.size_eq]
  constructor
  · intro hle
    by_contra hne
    have hpos := byteLength_pos hne
    omega
  · rintro rfl
    exact Nat.le_refl _

theorem restFrom_current_eq (h : At source before text rest s) : restFrom source s.current = some rest := by
  have hs : source.toList = (before ++ text) ++ rest ++ [] := by rw [List.append_nil, h.source_eq]
  have hr := slice?_eq hs
  rwa [byteLength_append, ← h.current_eq, ← h.size_eq] at hr

theorem restFrom_start_eq (h : At source before text rest s) : restFrom source s.start = some (text ++ rest) := by
  have hs : source.toList = before ++ (text ++ rest) ++ [] := by rw [List.append_nil, ← List.append_assoc, h.source_eq]
  have hr := slice?_eq hs
  rwa [byteLength_append, ← Nat.add_assoc, ← h.current_eq, ← h.size_eq, ← h.start_eq] at hr

theorem lexeme_eq (h : At source before text rest s) : s.lexeme source = some text := by
  rw [lexeme, h.start_eq, h.current_eq]
  exact slice?_eq h.source_eq

theorem peek_eq (h : At source before text rest s) : s.peek source = some rest.head? := by
  simp [peek, h.restFrom_current_eq]

theorem peekNext_eq (h : At source before text rest s) : s.peekNext source = some rest.tail.head? := by
  simp [peekNext, h.restFrom_current_eq]

theorem advance_eq (h : At source before text (c :: rest) s) : s.advance source = some (some c, s.ahead c) := by
  simp [advance, h.peek_eq, Cursor.ahead]

theorem advance_eq_past (h : At source before text (c :: rest) s) (hc : c ≠ '\n') :
    s.advance source = some (some c, s.past [c]) := by
  rw [h.advance_eq, ahead_eq_past hc]

theorem accept_eq (h : At source before text (c :: rest) s) (hc : c ≠ '\n') :
    s.accept source c = some (true, s.past [c]) := by
  rw [← ahead_eq_past hc]
  simp [accept, h.peek_eq, Cursor.ahead]

theorem accept_eq_false (h : At source before text rest s) (hc : rest.head? ≠ some c) : s.accept source c = some (false, s) := by
  simp [accept, h.peek_eq, hc]

theorem countLine_eq (h : At source before text (c :: rest) s) :
    s.countLine source = some { s with line := s.line + newlines [c] } := by
  by_cases hc : c = '\n' <;> simp [countLine, h.peek_eq, newlines_cons, hc]

theorem emit_eq (h : At source before text rest s) (kind : Kind) (literal : Option Literal) :
    s.emit source kind literal = some (s.add ⟨kind, String.ofList text, literal, s.line⟩) := by
  simp [emit, h.lexeme_eq]

/-! ## Loops -/

theorem loop_nil (h : At source before text [] s) (round : Cursor σ → Option (Bool × Cursor σ)) :
    s.loop source round = some (false, s) := by
  rw [loop, h.atEnd_eq, List.isEmpty_nil, if_pos rfl]

theorem loop_stop {round : Cursor σ → Option (Bool × Cursor σ)} {last : Cursor σ} (h : At source before text (c :: rest) s)
    (hround : round s = some (false, last)) : s.loop source round = some (true, last) := by
  rw [loop, h.atEnd_eq, hround]
  rfl

theorem loop_again {round : Cursor σ → Option (Bool × Cursor σ)} {next : Cursor σ} (h : At source before text (c :: rest) s)
    (hround : round s = some (true, next)) (hlt : s.current < next.current) :
    s.loop source round = next.loop source round := by
  rw [loop, h.atEnd_eq, hround]
  simp [hlt]

/-- A character taken after its line has been counted. -/
theorem advance_countLine (h : At source before text (c :: rest) s) :
    ((do let s ← s.countLine source; let (_, s) ← s.advance source; return (true, s)) : Option (Bool × Cursor σ)) =
      some (true, s.past [c]) := by
  have h' : At source before text (c :: rest) { s with line := s.line + newlines [c] } := ⟨h.source_eq, h.start_eq, h.current_eq⟩
  simp [h.countLine_eq, h'.advance_eq, Cursor.ahead, Cursor.past]

theorem lineRound_eq (h : At source before text (c :: rest) s) :
    s.lineRound source = some (if c ≠ '\n' then (true, s.past [c]) else (false, s)) := by
  rw [lineRound, h.peek_eq]
  by_cases hc : c = '\n'
  · simp [hc]
  · simp [hc, h.advance_eq_past hc]

theorem textRound_eq (h : At source before text (c :: rest) s) :
    s.textRound source = some (if c ≠ '"' then (true, s.past [c]) else (false, s)) := by
  rw [textRound, h.peek_eq, h.advance_countLine]
  by_cases hc : c = '"' <;> simp [hc]

/-- Rounds that take one character after the other as long as it has a property take the run of such characters. -/
theorem loop_takeWhile {round : Cursor σ → Option (Bool × Cursor σ)} {p : Char → Prop} [DecidablePred p]
    (hround : ∀ {text c rest s}, At source before text (c :: rest) s →
      round s = some (if p c then (true, s.past [c]) else (false, s)))
    (h : At source before text rest s) : ∃ found, s.loop source round = some (found, s.past (rest.takeWhile (p ·))) := by
  -- what remains becomes what has been taken, so both move with the induction
  induction rest generalizing text s with
  | nil => exact ⟨false, h.loop_nil round⟩
  | cons c rest ih =>
    by_cases hc : p c
    · obtain ⟨found, hfound⟩ := ih h.past_cons
      refine ⟨found, ?_⟩
      rw [h.loop_again (by rw [hround h, if_pos hc]) (Nat.lt_add_of_pos_right c.utf8Size_pos), hfound]
      simp [hc]
    · refine ⟨true, ?_⟩
      rw [h.loop_stop (by rw [hround h, if_neg hc])]
      simp [hc]

theorem skipLine_eq (h : At source before text rest s) :
    s.skipLine source = some (s.past (rest.takeWhile (· ≠ '\n'))) := by
  obtain ⟨found, hloop⟩ := h.loop_takeWhile lineRound_eq
  rw [skipLine, hloop]
  rfl

theorem skipText_eq (h : At source before text rest s) :
    s.skipText source = some (s.past (rest.takeWhile (· ≠ '"'))) := by
  obtain ⟨found, hloop⟩ := h.loop_takeWhile textRound_eq
  rw [skipText, hloop]
  rfl

theorem atClose_eq (h : At source before text rest s) : s.atClose source = some (decide (['*', '/'] <+: rest)) := by
  rw [atClose, h.peek_eq, h.peekNext_eq]
  rcases rest with _ | ⟨c, _ | ⟨d, rest⟩⟩
  · rfl
  · simp
  · by_cases hc : c = '*' <;> simp [hc, eq_comm]

theorem commentRound_eq (h : At source before text (c :: rest) s) (hclose : ¬ ['*', '/'] <+: c :: rest) :
    s.commentRound source = some (true, s.past [c]) := by
  rw [commentRound, h.atClose_eq, h.advance_countLine]
  simp [hclose]

theorem commentRound_close (h : At source before text ('*' :: '/' :: rest) s) :
    s.commentRound source = some (false, s.past ['*', '/']) := by
  rw [commentRound, h.atClose_eq, h.advance_eq_past (by decide)]
  simp [h.past_cons.advance_eq_past]

/-- A comment is taken up to the first end that it has, and with the whole source where it has none. -/
theorem loop_commentRound (h : At source before text rest s) :
    s.loop source (commentRound source) = some (match splitClose rest with
      | some (body, _) => (true, s.past body)
      | none => (false, s.past rest)) := by
  fun_induction splitClose rest generalizing text s with
  | case1 t => rw [h.loop_stop h.commentRound_close]
  | case2 c t hclose ih =>
    have hne : ¬ ['*', '/'] <+: c :: t := by
      rintro ⟨u, hu⟩
      obtain ⟨rfl, rfl⟩ : '*' = c ∧ '/' :: u = t := by simpa using hu
      exact hclose u rfl rfl
    rw [h.loop_again (h.commentRound_eq hne) (Nat.lt_add_of_pos_right c.utf8Size_pos), ih h.past_cons]
    cases splitClose t <;> simp
  | case3 => exact h.loop_nil _

theorem skipComment_eq (h : At source before text rest s) :
    s.skipComment source report = some (match splitClose rest with
      | some (body, _) => s.past body
      | none => (s.past rest).fault report .unterminatedComment) := by
  rw [skipComment, h.loop_commentRound]
  cases splitClose rest <;> rfl

/-! ## Pieces -/

/-- The text that has been taken becomes a token. -/
theorem emit_behind (h : At source before text rest (s.past text)) (report : σ → Diagnostic → σ) (kind : Kind)
    (literal : Option Literal) : (s.past text).emit source kind literal = some (s.behind report ⟨text, .token kind literal⟩) :=
  h.emit_eq kind literal

/-- A symbol of two characters is taken where an equals sign is next, and one of one character where it is not. -/
theorem emitEither_eq {t : List Char} {withEqual alone : Kind} (h : At source before [c] t (s.past [c]))
    (hcut : Segment.cut c t = Segment.cutSymbol c t) (hequal : Kind.ofSymbolEqual? c = some withEqual)
    (halone : Kind.ofSymbol? c = some alone) :
    (s.past [c]).emitEither source withEqual alone = some (s.behind report (Segment.cut c t).1) := by
  rw [emitEither]
  by_cases he : t.head? = some '='
  · obtain ⟨u, rfl⟩ := List.head?_eq_some_iff.1 he
    have hboth : At source before [c, '='] u (s.past [c, '=']) := past_past s [c] ['='] ▸ h.past_cons
    have hseg : (Segment.cut c ('=' :: u)).1 = ⟨[c, '='], .token withEqual none⟩ := by
      simp [hcut, Segment.cutSymbol, hequal]
    rw [hseg]
    simpa [h.accept_eq] using hboth.emit_behind report withEqual none
  · have hseg : (Segment.cut c t).1 = ⟨[c], .token alone none⟩ := by
      rw [hcut]
      unfold Segment.cutSymbol
      split <;> simp_all [Segment.ofChar]
    rw [hseg]
    simpa [h.accept_eq_false he] using h.emit_behind report alone none

/-- The text between two quotes lies between the offset behind the first and that of the second. -/
theorem slice?_quoted {body : List Char} (h : At source before ('"' :: (body ++ ['"'])) rest s) :
    slice? source (s.start + 1) (s.current - 1) = some body := by
  have hsource : source.toList = (before ++ ['"']) ++ body ++ ('"' :: rest) := by simp [h.source_eq]
  have hslice := slice?_eq hsource
  have hstart : s.start + 1 = byteLength (before ++ ['"']) := by
    rw [h.start_eq, byteLength_append]
    rfl
  have hcurrent : s.current - 1 = byteLength (before ++ ['"']) + byteLength body := by
    have hq : '"'.utf8Size = 1 := rfl
    rw [h.current_eq]
    simp only [byteLength_append, byteLength_cons, byteLength_nil, hq]
    omega
  rwa [hstart, hcurrent]

/-- Where the text behind a quote ends: in front of the next quote, or with the source. -/
theorem body {t : List Char} (h : At source before ['"'] t (s.past ['"'])) :
    At source before ('"' :: t.takeWhile (· ≠ '"')) (t.dropWhile (· ≠ '"')) (s.past ('"' :: t.takeWhile (· ≠ '"'))) := by
  rw [← List.takeWhile_append_dropWhile (p := (· ≠ '"')) (l := t)] at h
  exact past_past s ['"'] _ ▸ h.past

/-- A quote closes the text in front of it. -/
theorem close {body : List Char} (h : At source before ('"' :: body) ('"' :: rest) (s.past ('"' :: body))) :
    (s.past ('"' :: body)).advance source = some (some '"', s.past ('"' :: (body ++ ['"']))) ∧
      At source before ('"' :: (body ++ ['"'])) rest (s.past ('"' :: (body ++ ['"']))) := by
  rw [h.advance_eq_past (by decide), past_past]
  exact ⟨rfl, past_past s ('"' :: body) ['"'] ▸ h.past_cons⟩

theorem readText_eq {t : List Char} (h : At source before ['"'] t (s.past ['"'])) :
    (s.past ['"']).readText source report = some (s.behind report (Segment.cutText t).1) := by
  have hbody := h.body
  rw [readText, h.skipText_eq, Segment.cutText]
  simp only [past_past, List.cons_append, List.nil_append, Option.bind_eq_bind, Option.bind_some, hbody.atEnd_eq]
  generalize t.takeWhile (· ≠ '"') = body at hbody
  cases hd : t.dropWhile (· ≠ '"') with
  | nil => rfl
  | cons q rest =>
    obtain rfl := eq_quote_of_dropWhile hd
    rw [hd] at hbody
    obtain ⟨hadvance, hclosed⟩ := hbody.close
    have hemit := hclosed.emit_behind report .string (some (.text (String.ofList body)))
    simpa [hadvance, hclosed.slice?_quoted] using hemit

theorem readSlash_eq {t : List Char} (h : At source before ['/'] t (s.past ['/'])) :
    (s.past ['/']).readSlash source report = some (s.behind report (Segment.cutSlash t).1) := by
  rw [readSlash]
  by_cases hl : t.head? = some '/'
  · obtain ⟨u, rfl⟩ := List.head?_eq_some_iff.1 hl
    have hbody := h.past_cons
    rw [past_past] at hbody
    simp only [h.accept_eq (by decide), Option.bind_eq_bind, Option.bind_some, ↓reduceIte, past_past, hbody.skipLine_eq]
    rfl
  by_cases hb : t.head? = some '*'
  · obtain ⟨u, rfl⟩ := List.head?_eq_some_iff.1 hb
    have hbody := h.past_cons
    rw [past_past] at hbody
    simp only [h.accept_eq_false hl, h.accept_eq (by decide), Option.bind_eq_bind, Option.bind_some, Bool.false_eq_true,
      ↓reduceIte, past_past, hbody.skipComment_eq, Segment.cutSlash, Segment.cutBlockComment]
    cases splitClose u with
    | some p => rfl
    | none => rfl
  · have hcut : (Segment.cutSlash t).1 = ⟨['/'], .token .slash none⟩ := by
      unfold Segment.cutSlash
      split <;> simp_all [Segment.ofChar, Kind.ofSymbol?]
    rw [hcut]
    simpa [h.accept_eq_false hl, h.accept_eq_false hb] using h.emit_behind report .slash none

/-- A pattern takes the cursor behind what it finds where the piece begins. -/
theorem goBehind_eq {pattern : List Char → Option (List Char)} {t u : List Char} (h : At source before [] (c :: t) s)
    (hp : pattern (c :: t) = some u) (hn : newlines u = newlines [c]) :
    (s.past [c]).goBehind source pattern = some (s.past u) := by
  have hstart : s.start = s.current := by simp [h.start_eq, h.current_eq]
  have hrest : restFrom source (s.past [c]).start = some (c :: t) := h.restFrom_start_eq
  rw [goBehind, hrest]
  simp [hp, Cursor.past, hstart, hn]

theorem readNumber_eq {t : List Char} (h : At source before [] (c :: t) s) (hc : Digit c) :
    (s.past [c]).readNumber source report = some (s.behind report (Segment.cutNumber c t).1) := by
  have hfraction := digits_splitFraction (t.dropWhile Char.isDigit)
  have happ : (Segment.cutNumber c t).1.text ++ (Segment.cutNumber c t).2 = c :: t := by
    simp [Segment.cutNumber, splitFraction_append, List.takeWhile_append_dropWhile]
  have hn : newlines (Segment.cutNumber c t).1.text = newlines [c] := by
    rw [newlines_singleton (by rintro rfl; exact absurd hc (by decide))]
    exact (Lexeme.number (digits_takeWhile hc) hfraction).newlines_eq
  have hat := h.past_append happ
  have hvalue : Decimal.ofText? (Segment.cutNumber c t).1.text = _ := ofText?_pointed (digits_takeWhile hc) hfraction
  rw [readNumber, h.goBehind_eq (numberAt?_eq hc) hn]
  simp only [Option.bind_eq_bind, Option.bind_some, hat.lexeme_eq, hvalue]
  exact hat.emit_behind report _ _

theorem readWord_eq {t : List Char} (h : At source before [] (c :: t) s) (hc : Letter c) :
    (s.past [c]).readWord source = some (s.behind report (Segment.cutWord c t).1) := by
  have happ : (Segment.cutWord c t).1.text ++ (Segment.cutWord c t).2 = c :: t := by
    simp [Segment.cutWord, List.takeWhile_append_dropWhile]
  have hn : newlines (Segment.cutWord c t).1.text = newlines [c] := by
    rw [newlines_singleton (by rintro rfl; exact absurd hc (by decide))]
    exact (Lexeme.word (word_cutWord hc)).newlines_eq
  have hat := h.past_append happ
  rw [readWord, h.goBehind_eq (wordAt?_eq hc) hn]
  simp only [Option.bind_eq_bind, Option.bind_some, hat.lexeme_eq]
  exact hat.emit_behind report _ _

/-- A symbol of one character is taken whatever is next. -/
theorem emit_ofChar {t : List Char} {kind : Kind} (h : At source before [c] t (s.past [c]))
    (hcut : Segment.cut c t = (Segment.ofChar c, t)) (hkind : Kind.ofSymbol? c = some kind) :
    (s.past [c]).emit source kind none = some (s.behind report (Segment.cut c t).1) := by
  rw [hcut, Segment.ofChar, hkind]
  exact h.emit_behind report kind none

/-- What begins with a character is the segment that a cut gives there. -/
theorem read_eq {t : List Char} (h : At source before [] (c :: t) s) :
    (s.ahead c).read source report c = some (s.behind report (Segment.cut c t).1) := by
  by_cases hn : c = '\n'
  · subst hn
    rfl
  have hnext := h.past_cons
  rw [ahead_eq_past hn]
  unfold read
  -- the cases of `read` in its order: 11 to 14 are the symbols that an equals sign may follow, 21 is every other character
  split
  case h_11 | h_12 | h_13 | h_14 => exact hnext.emitEither_eq rfl rfl rfl
  case h_15 => exact hnext.readSlash_eq
  case h_16 | h_17 | h_18 => rfl
  case h_19 => exact absurd rfl hn
  case h_20 => exact hnext.readText_eq
  case h_21 =>
    have hcut : Segment.cut c t = if c.isDigit then Segment.cutNumber c t else if isWordStart c then Segment.cutWord c t
        else (⟨[c], .fault (.unexpectedCharacter c)⟩, t) := by
      simp_all [Segment.cut, isBlank, Segment.cutSymbol, Kind.ofSymbolEqual?, Segment.ofChar, Kind.ofSymbol?]
    rw [hcut]
    split
    · next hd => exact h.readNumber_eq (isDigit_iff.1 hd)
    split
    · next hw => exact h.readWord_eq (isWordStart_iff.1 hw)
    · rfl
  all_goals exact hnext.emit_ofChar rfl rfl

/-! ## Steps and runs -/

theorem begun (h : At source before text rest s) : At source (before ++ text) [] rest s.begun where
  source_eq := by rw [List.append_nil, h.source_eq]
  start_eq := by rw [byteLength_append, ← h.current_eq, Cursor.begun]
  current_eq := by rw [byteLength_append, byteLength_nil, Nat.add_zero, ← h.current_eq, Cursor.begun]

theorem told (h : At source before text rest s) (e : Option Event) : At source before text rest (s.told report e) := by
  rw [told_eq]
  exact ⟨h.source_eq, h.start_eq, h.current_eq⟩

theorem behind {seg : Segment} (h : At source before [] (seg.text ++ rest) s) :
    At source before seg.text rest (s.behind report seg) :=
  (h.past (t := seg.text)).told _

/-- A step takes the segment at the front of what remains. -/
theorem step_eq {t : List Char} (h : At source before text (c :: t) s) :
    s.step source report = some (s.begun.behind report (Segment.cut c t).1) := by
  rw [step, readNext, h.begun.advance_eq]
  exact h.begun.read_eq

/-- Behind a step the segment has been taken and the rest of the cut remains. -/
theorem next {t : List Char} (h : At source before text (c :: t) s) :
    At source (before ++ text) (Segment.cut c t).1.text (Segment.cut c t).2 (s.begun.behind report (Segment.cut c t).1) :=
  At.behind (Segment.cut_append c t ▸ h.begun)

end At

/-- The position that a cursor has reached. -/
def position (s : Cursor σ) : Position := ⟨s.current, s.line⟩

/-- The cursor behind segments taken one after the other, when it has told of what each of them gives. -/
def behindAll (report : σ → Diagnostic → σ) (s : Cursor σ) : List Segment → Cursor σ
  | [] => s
  | seg :: l => (s.begun.behind report seg).behindAll report l

/-- What a cursor has told of segments is what the segments give in their places. -/
theorem behindAll_eq (report : σ → Diagnostic → σ) (s : Cursor σ) (l : List Segment) :
    ∃ start, s.behindAll report l =
      { start := start
        current := (finish s.position l).offset
        line := (finish s.position l).line
        tokens := s.tokens ++ ((place s.position l).filterMap Placed.event?).filterMap Event.token?
        sink := (((place s.position l).filterMap Placed.event?).filterMap Event.diagnostic?).foldl report s.sink
        level := s.level
        notes := s.notes ++ notesUpTo s.level (((place s.position l).filterMap Placed.event?).map Note.ofEvent) } := by
  induction l generalizing s with
  | nil => exact ⟨s.start, by simp [behindAll, place, finish, position, notesUpTo]⟩
  | cons seg l ih =>
    have hposition : (s.begun.behind report seg).position = s.position.advance seg.text := by
      rw [behind, told_eq]
      rfl
    obtain ⟨start, h⟩ := ih (s.begun.behind report seg)
    refine ⟨start, ?_⟩
    rw [behindAll, h, hposition, behind, told_eq, events_place_cons, List.filterMap_append, List.filterMap_append,
      List.foldl_append, List.map_append, notesUpTo_append, ← List.append_assoc, ← List.append_assoc]
    rfl

theorem current_behind (s : Cursor σ) (seg : Segment) : (s.behind report seg).current = s.current + byteLength seg.text := by
  rw [behind, told_eq]
  rfl

/-- A run goes through the segments of what remains and adds the token for the end of the input. -/
theorem At.loop_stepRound (h : At source before text rest s) :
    s.loop source (stepRound source report) = some (false, s.behindAll report (segments rest)) := by
  fun_induction segments rest generalizing before text s with
  | case1 => exact h.loop_nil _
  | case2 c t ih =>
    have hround : s.stepRound source report = some (true, s.begun.behind report (Segment.cut c t).1) := by
      rw [stepRound, h.step_eq]
      rfl
    have hpos := byteLength_pos (Segment.text_cut_ne_nil c t)
    rw [h.loop_again hround (by rw [current_behind]; exact Nat.lt_add_of_pos_right hpos), ih h.next, behindAll]

theorem At.run_eq (h : At source before text rest s) :
    s.run source report = some (s.behindAll report (segments rest)).ended := by
  rw [run, h.loop_stepRound]
  rfl

/-- A cursor at the beginning of a source. -/
theorem at_initial (source : String) (sink : σ) (level : Level) (notes : List Note) :
    At source [] [] source.toList ({ sink := sink, level := level, notes := notes } : Cursor σ) :=
  ⟨rfl, rfl, rfl⟩

/-- A run from the beginning gives the tokens of the source, reports its diagnostics and writes the notes that are asked for. -/
theorem run_initial (report : σ → Diagnostic → σ) (source : String) (sink : σ) (level : Level) (notes : List Note) :
    ∃ start, run source report { sink := sink, level := level, notes := notes } = some
      { start := start
        current := (finish {} (segments source.toList)).offset
        line := endLine source
        tokens := Loxeme.tokens source
        sink := (diagnostics source).foldl report sink
        level := level
        notes := notes ++ notesUpTo level (scanNotes source) } := by
  obtain ⟨start, h⟩ := behindAll_eq report { sink := sink, level := level, notes := notes } (segments source.toList)
  refine ⟨start, ?_⟩
  rw [(at_initial source sink level notes).run_eq, h]
  rfl

end Cursor

/-- A scan with a cursor gives the tokens of the source and reports its diagnostics one after the other, whatever becomes of
them in the sink. -/
theorem scanInto_eq {σ : Type} (report : σ → Diagnostic → σ) (source : String) (sink : σ) :
    scanInto report source sink = some (tokens source, (diagnostics source).foldl report sink) := by
  obtain ⟨start, h⟩ := Cursor.run_initial report source sink .error []
  rw [scanInto, h]
  rfl

end Loxeme
