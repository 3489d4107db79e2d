import Loxeme.Proofs.Following
import Loxeme.Proofs.Located
import Loxeme.Proofs.Sinks

/-!
# Kind, lexeme and value of a token

The lexeme of a token decides its kind and its value: `Spells` says which texts stand for which tokens, a text for one token only
(`Spells.unique`), and a scan gives no token but those that their lexemes spell (`spells_of_mem_tokens`). So a token has a text
exactly when it is one in quotes, and then the text is what stands between the quotes, it has a number exactly when it is one, and
whether a word is reserved or a name is read off the table of the reserved words alone (`Coherent`).
-/

namespace Loxeme

variable {t : List Char} {k k' : Kind} {l l' : Option Literal} {word : String}

/-- The texts of tokens, with the kind and the value of the token: a lexeme that stands for a token by itself, a text in quotes, and
no text at all for the end of the input. -/
inductive Spells : List Char → Kind → Option Literal → Prop where
  | lexeme {text : List Char} {kind : Kind} {literal : Option Literal} : Lexeme text kind literal → Spells text kind literal
  | quoted {body : List Char} : '"' ∉ body →
      Spells ('"' :: (body ++ ['"'])) .string (some (.text (String.ofList body)))
  | endOfInput : Spells [] .endOfInput none

/-- The reserved words and the kinds that they stand for. -/
def reserved : List (String × Kind) := Keyword.all.map fun w => (w.spelling, .keyword w)

/-- What holds of a token whose kind, lexeme and value go together. -/
structure Coherent (t : Token) : Prop where
  /-- The token has a text exactly when it is one in quotes. -/
  text?_isSome_iff : t.text?.isSome ↔ t.kind = .string
  /-- The text has no quote and stands as it is between two quotes. -/
  text?_eq_some : ∀ s, t.text? = some s → '"' ∉ s.toList ∧ t.lexeme = "\"" ++ s ++ "\""
  /-- The token has a number exactly when it is one. -/
  number?_isSome_iff : t.number?.isSome ↔ t.kind = .number
  /-- A token that is neither has no value. -/
  literal_eq_none : t.kind ≠ .string → t.kind ≠ .number → t.literal = none
  /-- The token is a keyword exactly when its lexeme is in the table of the reserved words. -/
  isKeyword_iff : t.kind.isKeyword ↔ ∃ kind, (t.lexeme, kind) ∈ reserved
  /-- The table gives the lexeme no other kind than that of the token. -/
  kind_eq : ∀ kind, (t.lexeme, kind) ∈ reserved → t.kind = kind
  /-- The token is a name exactly when its lexeme is a word that is not in the table. -/
  identifier_iff : t.kind = .identifier ↔ Word t.lexeme.toList ∧ ∀ kind, (t.lexeme, kind) ∉ reserved

/-! ## The table of reserved words -/

/-- A word is in the table with the kind of the keyword that it is reserved for. -/
theorem mem_reserved_iff : (word, k) ∈ reserved ↔ ∃ w, Keyword.ofWord? word = some w ∧ k = .keyword w := by
  simp only [reserved, List.mem_map, Prod.mk.injEq, Keyword.ofWord?_eq_some_iff]
  constructor
  · rintro ⟨w, -, hw, rfl⟩
    exact ⟨w, hw, rfl⟩
  · rintro ⟨w, hw, rfl⟩
    exact ⟨w, Keyword.mem_all w, hw, rfl⟩

example : reserved.map Prod.fst = ["and", "class", "else", "false", "for", "fun", "if", "nil", "or", "print", "return", "super",
    "this", "true", "var", "while"] := rfl

/-- A kind is a keyword exactly when some word has it in the table. -/
theorem isKeyword_iff_mem_reserved : k.isKeyword ↔ ∃ word, (word, k) ∈ reserved := by
  constructor
  · intro h
    cases k with
    | keyword w => exact ⟨w.spelling, mem_reserved_iff.2 ⟨w, Keyword.ofWord?_eq_some_iff.2 rfl, rfl⟩⟩
    | _ => cases h
  · rintro ⟨word, h⟩
    obtain ⟨w, -, rfl⟩ := mem_reserved_iff.1 h
    rfl

/-- What the table gives a word is the kind of the word. -/
theorem ofWord_eq_of_mem_reserved (h : (word, k) ∈ reserved) : Kind.ofWord word = k := by
  obtain ⟨w, hw, rfl⟩ := mem_reserved_iff.1 h
  rw [Kind.ofWord, hw]

/-- The kind of a word is a keyword exactly when the word is in the table. -/
theorem isKeyword_ofWord_iff : (Kind.ofWord word).isKeyword ↔ ∃ kind, (word, kind) ∈ reserved := by
  rw [Kind.isKeyword_ofWord, Option.isSome_iff_exists]
  constructor
  · rintro ⟨w, hw⟩
    exact ⟨_, mem_reserved_iff.2 ⟨w, hw, rfl⟩⟩
  · rintro ⟨kind, h⟩
    obtain ⟨w, hw, -⟩ := mem_reserved_iff.1 h
    exact ⟨w, hw⟩

/-- The kind of a word is that of a name exactly when it is no keyword. -/
theorem ofWord_eq_identifier_iff : Kind.ofWord word = .identifier ↔ (Kind.ofWord word).isKeyword = false := by
  unfold Kind.ofWord
  split <;> simp [Kind.isKeyword]

/-- Every word of the table is a word. -/
theorem word_of_mem_reserved (h : (word, k) ∈ reserved) : Word word.toList := by
  obtain ⟨w, hw, -⟩ := mem_reserved_iff.1 h
  exact Keyword.ofWord?_eq_some_iff.1 hw ▸ word_spelling w

/-! ## What a text spells -/

/-- A segment that yields a token spells it. -/
theorem FirstSegment.spells {r : List Char} {s : Segment} (h : FirstSegment r s) (hy : s.yield = .token k l) :
    Spells s.text k l := by
  cases h with
  | quoted _ hbody =>
    obtain ⟨rfl, rfl⟩ := Yield.token.inj hy
    exact Spells.quoted hbody
  | lexeme _ _ hlex =>
    obtain ⟨rfl, rfl⟩ := Yield.token.inj hy
    exact Spells.lexeme hlex
  | _ => cases hy

/-- The lexeme of a token of a source spells the token. -/
theorem spells_of_mem_tokens {source : String} {t : Token} (h : t ∈ tokens source) :
    Spells t.lexeme.toList t.kind t.literal := by
  rcases mem_tokens_iff.1 h with h | rfl
  · obtain ⟨o, -, hfirst, hevent⟩ := exists_occurrence h
    obtain ⟨hy, hlexeme, -⟩ := Occurrence.yield_of_token hevent
    rw [hlexeme, String.toList_ofList]
    exact hfirst.spells hy
  · exact Spells.endOfInput

/-- No lexeme is in quotes. -/
theorem Lexeme.ne_quoted (h : Lexeme t k l) (body : List Char) : t ≠ '"' :: (body ++ ['"']) := by
  rintro rfl
  have hopens : Opens ('"' :: (body ++ ['"'])) := Or.inr (Or.inr (Or.inl ⟨_, rfl⟩))
  exact IsLexeme.not_opens ⟨k, l, h⟩ hopens

/-- A text spells one token only. -/
theorem Spells.unique (h : Spells t k l) (h' : Spells t k' l') : k = k' ∧ l = l' := by
  -- in each case the text is a variable for the other judgment, so that its forms are told apart by an equation of texts
  cases h with
  | lexeme hlex =>
    generalize ht : t = u at h'
    cases h' with
    | lexeme hlex' => exact (ht ▸ hlex).unique hlex'
    | quoted _ => exact absurd ht (hlex.ne_quoted _)
    | endOfInput => exact absurd ht hlex.ne_nil
  | @quoted body _ =>
    generalize ht : '"' :: (body ++ ['"']) = u at h'
    cases h' with
    | lexeme hlex' => exact absurd ht.symm (hlex'.ne_quoted _)
    | quoted _ =>
      obtain rfl := List.append_cancel_right (List.cons.inj ht).2
      exact ⟨rfl, rfl⟩
    | endOfInput => cases ht
  | endOfInput =>
    generalize ht : ([] : List Char) = u at h'
    cases h' with
    | lexeme hlex' => exact absurd ht.symm hlex'.ne_nil
    | quoted _ => cases ht
    | endOfInput => exact ⟨rfl, rfl⟩

/-- A token has the value that its kind asks for: a text in quotes that text, a number a number, and any other nothing. -/
theorem Spells.literal_cases (h : Spells t k l) :
    (∃ body, k = .string ∧ l = some (.text (String.ofList body)) ∧ '"' ∉ body ∧ t = '"' :: (body ++ ['"'])) ∨
      (∃ x, k = .number ∧ l = some (.number x)) ∨ (k ≠ .string ∧ k ≠ .number ∧ l = none) := by
  cases h with
  | lexeme h =>
    rcases h.symbol_or_number_or_word with ⟨hs, rfl⟩ | ⟨w, f, -, -, -, rfl, rfl⟩ | ⟨-, rfl, rfl⟩
    · have hkind : k ≠ .string ∧ k ≠ .number :=
        (by decide : ∀ p ∈ symbols, p.2 ≠ .string ∧ p.2 ≠ .number) _ hs
      exact Or.inr (Or.inr ⟨hkind.1, hkind.2, rfl⟩)
    · exact Or.inr (Or.inl ⟨_, rfl, rfl⟩)
    · have hkind : Kind.ofWord (String.ofList t) ≠ .string ∧ Kind.ofWord (String.ofList t) ≠ .number := by
        unfold Kind.ofWord
        split <;> simp
      exact Or.inr (Or.inr ⟨hkind.1, hkind.2, rfl⟩)
  | quoted hbody => exact Or.inl ⟨_, rfl, rfl, hbody, rfl⟩
  | endOfInput => exact Or.inr (Or.inr ⟨by decide, by decide, rfl⟩)

/-- A word spells a token of the kind of the word. -/
theorem Spells.kind_of_word (h : Spells t k l) (ht : Word t) : k = Kind.ofWord (String.ofList t) :=
  (h.unique (Spells.lexeme (Lexeme.word ht))).1

/-- Only a word spells a keyword or a name. -/
theorem Spells.isWord (h : Spells t k l) (hk : k.isKeyword ∨ k = .identifier) : Word t := by
  cases h with
  | lexeme h =>
    rcases h.symbol_or_number_or_word with ⟨hs, -⟩ | ⟨-, -, -, -, -, rfl, -⟩ | ⟨ht, -⟩
    · have hkind : ¬ (k.isKeyword ∨ k = .identifier) :=
        (by decide : ∀ p ∈ symbols, ¬ (p.2.isKeyword ∨ p.2 = .identifier)) _ hs
      exact absurd hk hkind
    · exact absurd hk (by decide)
    · exact ht
  | quoted _ => exact absurd hk (by decide)
  | endOfInput => exact absurd hk (by decide)

/-! ## Tokens are coherent -/

theorem Token.text?_eq_some_iff {t : Token} {s : String} : t.text? = some s ↔ t.literal = some (.text s) := by
  unfold Token.text?
  split <;> simp_all

theorem Token.number?_eq_some_iff {t : Token} {x : Binary64} : t.number? = some x ↔ t.literal = some (.number x) := by
  unfold Token.number?
  split <;> simp_all

section Coherent

variable {t : Token} (h : Spells t.lexeme.toList t.kind t.literal)

include h

/-- A token has a text or a number exactly when its kind asks for it. -/
theorem Spells.value_isSome_iff : (t.text?.isSome ↔ t.kind = .string) ∧ (t.number?.isSome ↔ t.kind = .number) := by
  simp only [Option.isSome_iff_exists, Token.text?_eq_some_iff, Token.number?_eq_some_iff]
  rcases h.literal_cases with ⟨body, hk, hl, -⟩ | ⟨x, hk, hl⟩ | ⟨hs, hn, hl⟩
  · simp [hk, hl]
  · simp [hk, hl]
  · simp [hs, hn, hl]

/-- The text of a token is what its lexeme has between the quotes. -/
theorem Spells.text?_eq_some {s : String} (hs : t.text? = some s) : '"' ∉ s.toList ∧ t.lexeme = "\"" ++ s ++ "\"" := by
  rw [Token.text?_eq_some_iff] at hs
  rcases h.literal_cases with ⟨body, -, hl, hbody, ht⟩ | ⟨x, -, hl⟩ | ⟨-, -, hl⟩
  · obtain rfl := Literal.text.inj (Option.some.inj (hl.symm.trans hs))
    rw [String.toList_ofList]
    refine ⟨hbody, String.toList_injective ?_⟩
    rw [ht]
    simp
  · cases hl.symm.trans hs
  · cases hl.symm.trans hs

theorem Spells.isKeyword_iff : t.kind.isKeyword ↔ ∃ kind, (t.lexeme, kind) ∈ reserved := by
  constructor
  · intro hk
    have hkind := h.kind_of_word (h.isWord (Or.inl hk))
    rwa [hkind, String.ofList_toList, isKeyword_ofWord_iff] at hk
  · rintro ⟨kind, hm⟩
    rw [h.kind_of_word (word_of_mem_reserved hm), String.ofList_toList]
    exact isKeyword_ofWord_iff.2 ⟨kind, hm⟩

theorem Spells.kind_eq {kind : Kind} (hm : (t.lexeme, kind) ∈ reserved) : t.kind = kind := by
  rw [h.kind_of_word (word_of_mem_reserved hm), String.ofList_toList, ofWord_eq_of_mem_reserved hm]

theorem Spells.identifier_iff : t.kind = .identifier ↔ Word t.lexeme.toList ∧ ∀ kind, (t.lexeme, kind) ∉ reserved := by
  have hnot : (∀ kind, (t.lexeme, kind) ∉ reserved) ↔ t.kind.isKeyword = false := by
    rw [← not_exists, ← h.isKeyword_iff, Bool.not_eq_true]
  rw [hnot]
  constructor
  · intro hk
    exact ⟨h.isWord (Or.inr hk), by rw [hk]; rfl⟩
  · rintro ⟨ht, hk⟩
    rw [h.kind_of_word ht] at hk ⊢
    exact ofWord_eq_identifier_iff.2 hk

/-- A token that its lexeme spells is coherent. -/
theorem Spells.coherent : Coherent t where
  text?_isSome_iff := h.value_isSome_iff.1
  text?_eq_some := fun _ hs => h.text?_eq_some hs
  number?_isSome_iff := h.value_isSome_iff.2
  literal_eq_none := by
    intro hs hn
    rcases h.literal_cases with ⟨-, hk, -⟩ | ⟨-, hk, -⟩ | ⟨-, -, hl⟩
    · exact absurd hk hs
    · exact absurd hk hn
    · exact hl
  isKeyword_iff := h.isKeyword_iff
  kind_eq := fun _ hm => h.kind_eq hm
  identifier_iff := h.identifier_iff

end Coherent

/-- Whatever its sink, a scan has tokens for a result, and the kind, the lexeme and the value of each of them go together. A kind is a
keyword exactly when some word has it in the table of the reserved words. -/
theorem scan_coherent {σ : Type} (report : σ → Diagnostic → σ) (source : String) (sink : σ) :
    (∃ sink', scanInto report source sink = some (tokens source, sink')) ∧ (∀ t ∈ tokens source, Coherent t) ∧
      ∀ kind : Kind, kind.isKeyword ↔ ∃ word, (word, kind) ∈ reserved :=
  ⟨⟨_, scanInto_eq report source sink⟩, fun _ ht => (spells_of_mem_tokens ht).coherent, fun _ => isKeyword_iff_mem_reserved⟩

/-- A backslash and a line feed are no more than characters of a text. -/
theorem scan_coherent_backslash :
    (⟨.string, "\"é\\n\n\"", some (.text "é\\n\n"), 2⟩ : Token) ∈ tokens "nile \"é\\n\n\" nil" ∧
      Coherent ⟨.string, "\"é\\n\n\"", some (.text "é\\n\n"), 2⟩ := by
  have hmem : (⟨.string, "\"é\\n\n\"", some (.text "é\\n\n"), 2⟩ : Token) ∈ tokens "nile \"é\\n\n\" nil" := by decide +kernel
  exact ⟨hmem, (scan_coherent Collector.report _ {}).2.1 _ hmem⟩

end Loxeme
