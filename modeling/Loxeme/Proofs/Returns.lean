import Loxeme.Console
import Loxeme.Proofs.Following
import Loxeme.Proofs.LineText
import Loxeme.Proofs.Spacing

/-!
# Carriage returns in front of line feeds

A source whose lines end in a line feed, and the same source with a carriage return in front of each line feed. Where a comment
runs to the end of its line the carriage return becomes part of it, and everywhere else outside of a text in quotes and a
comment it is a blank of its own, so the segments differ in number. What they yield differs in the texts with a line feed in
them only (`told_addReturns`). A line of the source is shown without the carriage return (`lineAt?_withReturns`).
-/

namespace Loxeme

/-- A text with a carriage return in front of each of its line feeds. -/
def addReturns (t : List Char) : List Char := t.flatMap fun c => if c = '\n' then ['\r', '\n'] else [c]

/-- A source with a carriage return in front of each of its line feeds. -/
def withReturns (source : String) : String := String.ofList (addReturns source.toList)

/-- The value of a literal in such a source: only a text can have line feeds. -/
def Literal.withReturns : Literal → Literal
  | number x => number x
  | text s => text (Loxeme.withReturns s)

/-- What a segment gives in such a source. -/
def Yield.withReturns : Yield → Yield
  | nothing => nothing
  | token kind literal => token kind (literal.map Literal.withReturns)
  | fault f => fault f

/-- A segment in such a source. -/
def Segment.withReturns (s : Segment) : Segment := ⟨addReturns s.text, s.yield.withReturns⟩

/-- A token of such a source: its kind and its line are the same. -/
def Token.withReturns (t : Token) : Token :=
  { t with lexeme := Loxeme.withReturns t.lexeme, literal := t.literal.map Literal.withReturns }

/-- What is told of in such a source. -/
def Event.withReturns : Event → Event
  | token t => token t.withReturns
  | fault d => fault d

example : withReturns "\"a\nb\" // c\n" = "\"a\r\nb\" // c\r\n" := by decide +kernel

/-! ## Texts with carriage returns -/

section Text

variable {c : Char} {t u v text rest : List Char}

@[simp] theorem addReturns_nil : addReturns [] = [] := rfl

@[simp] theorem addReturns_append (t u : List Char) : addReturns (t ++ u) = addReturns t ++ addReturns u :=
  List.flatMap_append

@[simp] theorem addReturns_newline (t : List Char) : addReturns ('\n' :: t) = '\r' :: '\n' :: addReturns t := rfl

theorem addReturns_cons (h : c ≠ '\n') (t : List Char) : addReturns (c :: t) = c :: addReturns t := by
  simp [addReturns, h]

theorem addReturns_of_not_mem (h : '\n' ∉ t) : addReturns t = t := by
  induction t with
  | nil => rfl
  | cons c t ih =>
    obtain ⟨hc, ht⟩ : '\n' ≠ c ∧ '\n' ∉ t := by simpa using h
    rw [addReturns_cons (Ne.symm hc), ih ht]

@[simp] theorem newlines_addReturns (t : List Char) : newlines (addReturns t) = newlines t := by
  induction t with
  | nil => rfl
  | cons c t ih =>
    by_cases hc : c = '\n'
    · subst hc
      simp [newlines_cons, ih]
    · simp [addReturns_cons hc, newlines_cons, ih]

/-- No other character than the carriage return is added. -/
theorem mem_of_mem_addReturns (hc : c ≠ '\r') (h : c ∈ addReturns t) : c ∈ t := by
  obtain ⟨d, hd, hcd⟩ := List.mem_flatMap.1 h
  split at hcd
  · next hn =>
    obtain rfl : c = '\n' := by simpa [hc] using hcd
    exact hn ▸ hd
  · rwa [List.mem_singleton.1 hcd]

/-- A beginning without blanks is a beginning of the text before carriage returns were put into it. -/
theorem begins_of_addReturns (hv : v <+: addReturns t) (hb : ∀ c ∈ v, ¬ Blank c) : v <+: t := by
  induction t generalizing v with
  | nil => exact hv
  | cons c t ih =>
    by_cases hc : c = '\n'
    · subst hc
      rcases List.prefix_cons_iff.1 hv with rfl | ⟨w, rfl, -⟩
      · exact List.nil_prefix
      · exact absurd blank_return (hb '\r' (by simp))
    · rw [addReturns_cons hc] at hv
      rcases List.prefix_cons_iff.1 hv with rfl | ⟨w, rfl, hw⟩
      · exact List.nil_prefix
      · exact List.cons_prefix_cons.2 ⟨rfl, ih hw fun d hd => hb d (by simp [hd])⟩

/-- A piece without blanks is a piece of the text before carriage returns were put into it. -/
theorem infix_of_addReturns (hv : v <:+: addReturns t) (hne : v ≠ []) (hb : ∀ c ∈ v, ¬ Blank c) : v <:+: t := by
  induction t with
  | nil => exact hv
  | cons c t ih =>
    rw [List.infix_cons_iff]
    by_cases hc : c = '\n'
    · subst hc
      -- neither the carriage return nor the line feed begins the piece
      have hne' : ∀ (d : Char) (w : List Char), Blank d → ¬ v <+: d :: w := by
        intro d w hd hp
        rcases List.prefix_cons_iff.1 hp with rfl | ⟨w', rfl, -⟩
        · exact hne rfl
        · exact hb d (by simp) hd
      rw [addReturns_newline, List.infix_cons_iff, List.infix_cons_iff] at hv
      rcases hv with hp | hp | hi
      · exact absurd hp (hne' _ _ blank_return)
      · exact absurd hp (hne' _ _ blank_newline)
      · exact Or.inr (ih hi)
    · have hp : v <+: addReturns (c :: t) → v <+: c :: t := fun h => begins_of_addReturns h hb
      rw [addReturns_cons hc] at hv hp
      rcases List.infix_cons_iff.1 hv with h | h
      · exact Or.inl (hp h)
      · exact Or.inr (ih h)

/-- Without an end a comment has none with carriage returns in it. -/
theorem not_infix_addReturns (h : ¬ ['*', '/'] <:+: t) : ¬ ['*', '/'] <:+: addReturns t :=
  fun hi => h (infix_of_addReturns hi (by simp) (by simp [Blank]))

/-- What stops before a text stops before it with carriage returns in it, but for a comment up to the end of its line. -/
theorem Stops.withReturns (h : Stops text rest) (hline : ['/', '/'] <+: text → rest = []) : Stops text (addReturns rest) where
  line := by
    intro hp d hd
    rw [hline hp] at hd
    cases hd
  slash := by
    intro ht d hd
    cases rest with
    | nil => cases hd
    | cons c t =>
      by_cases hc : c = '\n'
      · subst hc
        obtain rfl := Option.some.inj hd
        decide
      · rw [addReturns_cons hc] at hd
        exact h.slash ht d hd
  lexeme := by
    intro v hv hl
    refine h.lexeme v (begins_of_addReturns hv ?_) hl
    intro c hc
    exact hl.not_blank c (List.mem_append_right text hc)

end Text

/-! ## First segments with carriage returns -/

/-- The shortest beginning that ends in `*/` has no other `*/`. -/
theorem Shortest.exists_close {t body : List Char} (h : Shortest (fun u => ['*', '/'] <:+ u) t body) :
    ∃ b, body = b ++ ['*', '/'] ∧ ¬ ['*', '/'] <:+: b ++ ['*'] := by
  obtain ⟨b, rfl⟩ := h.holds
  refine ⟨b, rfl, ?_⟩
  rintro ⟨u, v, huv⟩
  have hbegin : b ++ ['*'] <+: t := by
    refine List.IsPrefix.trans ?_ h.begins
    exact ⟨['/'], by simp⟩
  have hle := h.shortest (u ++ ['*', '/']) ((List.prefix_append _ v).trans (huv ▸ hbegin)) (List.suffix_append _ _)
  have hlen := congrArg List.length huv
  simp only [List.length_append, List.length_cons, List.length_nil] at hle hlen
  omega

/-- The value of a lexeme has no line feeds. -/
theorem Lexeme.literal_withReturns {t : List Char} {k : Kind} {l : Option Literal} (h : Lexeme t k l) :
    l.map Literal.withReturns = l := by
  cases h <;> rfl

theorem Segment.withReturns_of_not_mem {s : Segment} (hn : '\n' ∉ s.text) (hy : s.yield.withReturns = s.yield) :
    s.withReturns = s := by
  rw [Segment.withReturns, addReturns_of_not_mem hn, hy]

/-- A segment that yields no fault is not open. -/
theorem Segment.not_open {s : Segment} (h : s.fault? = none) : ¬ s.Open := by
  rintro ⟨f, hf, -⟩
  rw [Segment.fault?, hf] at h
  cases h

/-- A closed first segment without line feeds stays what it is. -/
theorem FirstSegment.withReturns_of_not_mem {s : Segment} {rest : List Char} (h : FirstSegment (s.text ++ rest) s)
    (hline : ['/', '/'] <+: s.text → rest = []) (hn : '\n' ∉ s.text) (hy : s.yield.withReturns = s.yield) (hclosed : ¬ s.Open) :
    FirstSegment (s.withReturns.text ++ addReturns rest) s.withReturns := by
  rw [Segment.withReturns_of_not_mem hn hy]
  exact h.of_stops hclosed (h.stops.withReturns hline)

/-- A comment that is closed stays one. -/
theorem Shortest.comment_withReturns {t body : List Char} (h : Shortest (fun u => ['*', '/'] <:+ u) t body) (rest : List Char) :
    FirstSegment (addReturns ('/' :: '*' :: body) ++ addReturns rest) ⟨addReturns ('/' :: '*' :: body), .nothing⟩ := by
  obtain ⟨b, rfl, hb⟩ := h.exists_close
  have hb' : ¬ ['*', '/'] <:+: addReturns b ++ ['*'] := by simpa [addReturns_cons] using not_infix_addReturns hb
  have he : addReturns ('/' :: '*' :: (b ++ ['*', '/'])) = '/' :: '*' :: (addReturns b ++ ['*', '/']) := by
    simp [addReturns_cons]
  rw [he]
  exact FirstSegment.blockComment rfl (shortest_close hb' (addReturns rest))

theorem not_mem_addReturns_quote {body : List Char} (hq : '"' ∉ body) : '"' ∉ addReturns body :=
  fun hm => hq (mem_of_mem_addReturns (by decide) hm)

/-- A text in quotes stays one, its value the text with carriage returns. -/
theorem quoted_withReturns {body : List Char} (hq : '"' ∉ body) (rest : List Char) :
    FirstSegment (addReturns ('"' :: (body ++ ['"'])) ++ addReturns rest)
      ⟨addReturns ('"' :: (body ++ ['"'])), .token .string (some (.text (withReturns (String.ofList body))))⟩ := by
  have he : addReturns ('"' :: (body ++ ['"'])) = '"' :: (addReturns body ++ ['"']) := by simp [addReturns_cons]
  have hv : withReturns (String.ofList body) = String.ofList (addReturns body) := by
    rw [withReturns, String.toList_ofList]
  have hr : '"' :: (addReturns body ++ ['"']) ++ addReturns rest = '"' :: (addReturns body ++ '"' :: addReturns rest) := by simp
  rw [he, hv]
  exact FirstSegment.quoted hr (not_mem_addReturns_quote hq)

/-- With carriage returns a first segment stays one, but for a line feed, which becomes two blanks, and a comment up to a line
feed, which becomes longer. -/
theorem FirstSegment.withReturns {s : Segment} {rest : List Char} (h : FirstSegment (s.text ++ rest) s)
    (hfeed : s.text ≠ ['\n']) (hline : ['/', '/'] <+: s.text → rest = []) :
    FirstSegment (s.withReturns.text ++ addReturns rest) s.withReturns := by
  have hsame := h.withReturns_of_not_mem hline
  generalize hr : s.text ++ rest = r at h
  cases h with
  | lineComment hp hl => exact hsame (fun hm => hl.holds _ hm rfl) rfl (Segment.not_open rfl)
  | blockComment _ hs => exact hs.comment_withReturns rest
  | openComment hr' hn =>
    obtain rfl : rest = [] := by simpa using hr
    rw [Segment.withReturns, hr', addReturns_nil, List.append_nil]
    exact FirstSegment.openComment (by simp [addReturns_cons]) (not_infix_addReturns hn)
  | quoted _ hq => exact quoted_withReturns hq rest
  | openQuote hr' hq =>
    obtain rfl : rest = [] := by simpa using hr
    rw [Segment.withReturns, hr', addReturns_nil, List.append_nil]
    exact FirstSegment.openQuote (by simp [addReturns_cons]) (not_mem_addReturns_quote hq)
  | blank => exact hsame (by simpa [eq_comm] using hfeed) rfl (Segment.not_open rfl)
  | lexeme ho hl hlex =>
    refine hsame (fun hm => hlex.not_blank _ hm blank_newline) ?_ (Segment.not_open rfl)
    rw [Yield.withReturns, hlex.literal_withReturns]
  | @stray c t hr' ho =>
    refine hsame ?_ rfl ?_
    · intro hm
      obtain rfl := List.mem_singleton.1 hm
      exact not_blank_of_not_opens (hr' ▸ ho) blank_newline
    · rintro ⟨f, hf, hu⟩
      cases hf
      exact Fault.not_unterminated_stray c hu

/-- A segment that begins with two slashes is a comment up to the end of its line. -/
theorem FirstSegment.eq_line {s : Segment} {rest : List Char} (h : FirstSegment (s.text ++ rest) s) (hp : ['/', '/'] <+: s.text) :
    s.yield = .nothing ∧ '\n' ∉ s.text := by
  obtain ⟨u, hu⟩ := hp
  rw [← hu] at h
  have hs : s = ⟨'/' :: ('/' :: (u ++ rest)).takeWhile (· ≠ '\n'), .nothing⟩ := h.eq_cut
  rw [hs]
  refine ⟨rfl, ?_⟩
  intro hm
  rcases List.mem_cons.1 hm with he | hm
  · exact absurd he (by decide)
  · exact absurd (List.mem_takeWhile_imp hm) (by decide)

/-- A comment up to the end of its line takes in a carriage return behind it. -/
theorem FirstSegment.line_return {s : Segment} {rest : List Char} (h : FirstSegment (s.text ++ rest) s)
    (hp : ['/', '/'] <+: s.text) (t : List Char) :
    FirstSegment ((s.text ++ ['\r']) ++ '\n' :: t) ⟨s.text ++ ['\r'], .nothing⟩ := by
  obtain ⟨-, hn⟩ := h.eq_line hp
  have hp' : ['/', '/'] <+: s.text ++ ['\r'] := hp.trans (List.prefix_append _ _)
  have hrun : Longest (fun u => ∀ c ∈ u, c ≠ '\n') (s.text ++ ['\r']) (s.text ++ ['\r']) := by
    refine ⟨List.prefix_rfl, ?_, fun u hu _ => hu.length_le⟩
    intro c hc
    rcases List.mem_append.1 hc with hc | hc
    · exact ne_of_mem_of_not_mem hc hn
    · rw [List.mem_singleton.1 hc]
      decide
  exact FirstSegment.lineComment (hp'.trans (List.prefix_append _ _)) (hrun.append fun u hu hm => hu '\n' hm rfl)

/-! ## What is told of -/

theorem Segment.event?_withReturns (s : Segment) (n : Nat) : s.withReturns.event? n = (s.event? n).map Event.withReturns := by
  obtain ⟨text, y⟩ := s
  cases y with
  | nothing => rfl
  | token kind literal =>
    simp [Segment.withReturns, Yield.withReturns, Segment.event?, Event.withReturns, Token.withReturns, Loxeme.withReturns]
  | fault f => rfl

/-- A blank at the front adds nothing to what is told of, and no line unless it is a line feed. -/
theorem events_place_blank {c : Char} (hc : Blank c) (p : Position) (t : List Char) :
    (place p (segments (c :: t))).filterMap Placed.event? = (place (p.advance [c]) (segments t)).filterMap Placed.event? := by
  have hs : FirstSegment ([c] ++ t) ⟨[c], .nothing⟩ := FirstSegment.blank rfl hc
  have hsegs : segments (c :: t) = ⟨[c], .nothing⟩ :: segments t := segments_of_firstSegment hs
  rw [hsegs, events_place_cons]
  rfl

/-- Nor do a carriage return and a line feed, and they add one line. -/
theorem events_place_return (p : Position) (t : List Char) :
    (place p (segments ('\r' :: '\n' :: t))).filterMap Placed.event? =
      (place (p.advance ['\r', '\n']) (segments t)).filterMap Placed.event? := by
  rw [events_place_blank blank_return, events_place_blank blank_newline, ← advance_append]
  rfl

/-- Behind a comment up to the end of its line a carriage return may as well be a blank of its own. -/
theorem FirstSegment.events_line_return {s : Segment} {rest : List Char} (h : FirstSegment (s.text ++ rest) s)
    (hp : ['/', '/'] <+: s.text) (p : Position) (t : List Char) :
    (place p (segments (s.text ++ '\r' :: '\n' :: t))).filterMap Placed.event? =
      (place (p.advance s.text) (segments ('\r' :: '\n' :: t))).filterMap Placed.event? := by
  have he : s.text ++ '\r' :: '\n' :: t = (s.text ++ ['\r']) ++ '\n' :: t := by simp
  have hsegs := segments_of_firstSegment (h.line_return hp t)
  rw [he, hsegs, events_place_cons, events_place_blank blank_return, ← advance_append]
  rfl

/-- What is told of a text with carriage returns is what is told of the text, on the same lines. -/
theorem told_addReturns {r : List Char} {l : List Segment} (h : Segmented r l) {p q : Position} (hpq : p.line = q.line) :
    (place p (segments (addReturns r))).filterMap Placed.event? =
      ((place q l).filterMap Placed.event?).map Event.withReturns := by
  induction h generalizing p q with
  | nil => simp [place]
  | @cons s rest l hfirst hseg ih =>
    have hadv : (p.advance (addReturns s.text)).line = (q.advance s.text).line := by simp [Position.advance, hpq]
    rw [events_place_cons, List.map_append, addReturns_append]
    by_cases hfeed : s.text = ['\n']
    · -- a line feed becomes two blanks
      rw [hfeed] at hfirst hadv ⊢
      have hs : s = ⟨['\n'], .nothing⟩ := hfirst.eq_cut
      rw [hs]
      exact (events_place_return p _).trans (ih hadv)
    by_cases hline : ['/', '/'] <+: s.text → rest = []
    · have hs := hfirst.withReturns hfeed hline
      have hsegs : segments (addReturns s.text ++ addReturns rest) = s.withReturns :: segments (addReturns rest) :=
        segments_of_firstSegment hs
      have hadv' : (p.advance s.withReturns.text).line = (q.advance s.text).line := hadv
      rw [hsegs, events_place_cons, Segment.event?_withReturns, ih hadv', hadv', Option.toList_map]
    · -- a comment takes in the carriage return of the line feed behind it
      obtain ⟨hp, hne⟩ : ['/', '/'] <+: s.text ∧ rest ≠ [] := by simpa using hline
      obtain ⟨hy, hn⟩ := hfirst.eq_line hp
      obtain ⟨c, t, rfl⟩ := List.exists_cons_of_ne_nil hne
      obtain rfl := hfirst.stops.line hp c rfl
      rw [addReturns_of_not_mem hn] at hadv ⊢
      have hrest := ih hadv
      rw [addReturns_newline] at hrest ⊢
      rw [hfirst.events_line_return hp, hrest, Segment.event?, hy]
      rfl

theorem events_withReturns (source : String) : events (withReturns source) = (events source).map Event.withReturns := by
  rw [events, placedSegments, withReturns, String.toList_ofList]
  exact told_addReturns (segmented_segments _) rfl

theorem endLine_withReturns (source : String) : endLine (withReturns source) = endLine source := by
  rw [endLine_eq, endLine_eq, withReturns, String.toList_ofList, newlines_addReturns]

theorem tokens_withReturns (source : String) : tokens (withReturns source) = (tokens source).map Token.withReturns := by
  have hmap : ∀ l : List Event, (l.map Event.withReturns).filterMap Event.token? =
      (l.filterMap Event.token?).map Token.withReturns := by
    intro l
    rw [List.filterMap_map, List.map_filterMap]
    congr 1
    funext e
    cases e <;> rfl
  rw [tokens, tokens, events_withReturns, endLine_withReturns, hmap, List.map_append]
  rfl

theorem diagnostics_withReturns (source : String) : diagnostics (withReturns source) = diagnostics source := by
  rw [diagnostics, diagnostics, events_withReturns, List.filterMap_map]
  congr 1
  funext e
  cases e <;> rfl

/-! ## What is shown of -/

theorem dropLines_addReturns (n : Nat) (t : List Char) : dropLines n (addReturns t) = (dropLines n t).map addReturns := by
  induction t generalizing n with
  | nil => cases n <;> rfl
  | cons c t ih =>
    cases n with
    | zero => simp [dropLines]
    | succ n =>
      by_cases hc : c = '\n'
      · subst hc
        simpa [dropLines] using ih n
      · simpa [dropLines, addReturns_cons hc, hc] using ih (n + 1)

theorem firstLine_addReturns (t : List Char) :
    firstLine (addReturns t) = firstLine t ++ if '\n' ∈ t then ['\r'] else [] := by
  induction t with
  | nil => rfl
  | cons c t ih =>
    by_cases hc : c = '\n'
    · subst hc
      simp [firstLine]
    · simpa [firstLine, addReturns_cons hc, hc, Ne.symm hc] using ih

/-- A line comes without the carriage return that was put behind it. -/
theorem dropReturn_firstLine_addReturns {t : List Char} (h : '\r' ∉ t) :
    dropReturn (firstLine (addReturns t)) = dropReturn (firstLine t) := by
  have hline : '\r' ∉ firstLine t := fun hm => h ((List.takeWhile_prefix _).subset hm)
  rw [firstLine_addReturns, dropReturn_of_not_mem hline]
  split
  · exact dropReturn_concat _
  · rw [List.append_nil, dropReturn_of_not_mem hline]

theorem lineAt?_withReturns {source : String} (h : '\r' ∉ source.toList) (n : Nat) :
    lineAt? (withReturns source) n = lineAt? source n := by
  cases n with
  | zero => rfl
  | succ n =>
    rw [lineAt?, lineAt?, withReturns, String.toList_ofList, dropLines_addReturns]
    cases hd : dropLines n source.toList with
    | none => rfl
    | some u =>
      obtain ⟨p, hp, -⟩ := dropLines_eq_some_iff.1 hd
      have hu : '\r' ∉ u := fun hm => h (hp ▸ List.mem_append_right p hm)
      simp [dropReturn_firstLine_addReturns hu]

/-- A source, and the same source with a carriage return in front of each line feed, have the same tokens but for the carriage
returns in their texts, on the same lines, and the same diagnostics. Where the source itself has no carriage return the two have
the same lines, and every diagnostic is shown in the same way with either. -/
theorem scan_withReturns (source : String) :
    tokens (withReturns source) = (tokens source).map Token.withReturns ∧
      diagnostics (withReturns source) = diagnostics source ∧
      ('\r' ∉ source.toList → (∀ n, lineAt? (withReturns source) n = lineAt? source n) ∧
        ∀ d, ({ source := some (withReturns source) } : Console).render d = ({ source := some source } : Console).render d) := by
  refine ⟨tokens_withReturns source, diagnostics_withReturns source, ?_⟩
  intro h
  refine ⟨lineAt?_withReturns h, ?_⟩
  intro d
  simp only [Console.render, Console.lineOf?, Option.bind_some, lineAt?_withReturns h]

/-- A text in quotes over two lines, a comment of each form, a stray character, and a text that has no end. -/
theorem scan_withReturns_open_text :
    '\r' ∉ "\"a\nb\" // c\n/*\n*/ 1.\n#\n\"x\n".toList ∧
      (∀ n, lineAt? (withReturns "\"a\nb\" // c\n/*\n*/ 1.\n#\n\"x\n") n = lineAt? "\"a\nb\" // c\n/*\n*/ 1.\n#\n\"x\n" n) ∧
      ∀ d, ({ source := some (withReturns "\"a\nb\" // c\n/*\n*/ 1.\n#\n\"x\n") } : Console).render d =
        ({ source := some "\"a\nb\" // c\n/*\n*/ 1.\n#\n\"x\n" } : Console).render d := by
  have h : '\r' ∉ "\"a\nb\" // c\n/*\n*/ 1.\n#\n\"x\n".toList := by decide
  exact ⟨h, (scan_withReturns _).2.2 h⟩

end Loxeme
