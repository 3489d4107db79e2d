import Loxeme.Proofs.Coherence
import Loxeme.Proofs.Numerals

/-!
# Equality of tokens

Tokens are compared by the values of their literals, and numbers are not compared by their bits: bits that are no number differ from
themselves, and zero equals negative zero. But no lexeme stands for bits that are no number (`Spells.isNaN_eq`), so every token of a
scan is equal to itself, and a lexeme stands for one number only, so its bits are given with it. Tokens of scans are therefore
equal exactly when they have the same lexeme on the same line, and then they are the same (`Scanned.equals_iff_eq`).
-/

namespace Loxeme

variable {a b t : Token}

/-- A token that a scan of some source gives. -/
def Scanned (t : Token) : Prop := ∃ source, t ∈ tokens source

/-! ## What is equal to itself -/

/-- Bits are equal to themselves unless they stand for no number. -/
theorem Binary64.equals_self (x : Binary64) : x.equals x = !x.isNaN := by
  simp [Binary64.equals]

/-- A value is equal to itself unless its bits stand for no number. -/
theorem Literal.equals_self {l : Literal} (h : ∀ x, l = .number x → x.isNaN = false) : l.equals l := by
  cases l with
  | number x => rw [Literal.equals, Binary64.equals_self, h x rfl, Bool.not_false]
  | text s => exact beq_self_eq_true s

/-- A token is equal to itself unless its value is a number whose bits stand for none. -/
theorem Token.equals_self (h : ∀ x, t.literal = some (.number x) → x.isNaN = false) : t.equals t := by
  cases hl : t.literal with
  | none => simp [Token.equals, hl]
  | some l =>
    have hself : l.equals l := Literal.equals_self fun x hx => h x (by rw [hl, hx])
    simp [Token.equals, hl, hself]

/-- Bits that are no number, in a token that no scan gives. -/
example : (⟨.number, "nan", some (.number ⟨0x7ff8000000000000⟩), 1⟩ : Token).equals
    ⟨.number, "nan", some (.number ⟨0x7ff8000000000000⟩), 1⟩ = false := by decide

/-- Equal tokens have the same lexeme and line. -/
theorem Token.lexeme_line_eq_of_equals (h : a.equals b) : a.lexeme = b.lexeme ∧ a.line = b.line := by
  simp only [Token.equals, Bool.and_eq_true, beq_iff_eq] at h
  exact ⟨h.1.1.2, h.1.2⟩

/-! ## Tokens of scans -/

/-- No lexeme stands for bits that are no number. -/
theorem Spells.isNaN_eq {u : List Char} {k : Kind} {x : Binary64} (h : Spells u k (some (.number x))) : x.isNaN = false := by
  rcases h.literal_cases with ⟨_, -, hl, -⟩ | ⟨_, rfl, -⟩ | ⟨-, -, hl⟩
  · cases hl
  · cases h with
    | lexeme hlex =>
      obtain ⟨y, hy, hround⟩ := hlex.rounded
      obtain rfl := Literal.number.inj (Option.some.inj hy)
      exact hround.isNaN_eq
  · cases hl

namespace Scanned

theorem spells (h : Scanned t) : Spells t.lexeme.toList t.kind t.literal := by
  obtain ⟨source, ht⟩ := h
  exact spells_of_mem_tokens ht

theorem equals_self (h : Scanned t) : t.equals t := by
  refine Token.equals_self ?_
  intro x hx
  exact (hx ▸ h.spells).isNaN_eq

/-- Tokens of scans with the same lexeme on the same line are the same token. -/
theorem eq_of_lexeme_line_eq (ha : Scanned a) (hb : Scanned b) (hlexeme : a.lexeme = b.lexeme) (hline : a.line = b.line) :
    a = b := by
  obtain ⟨hkind, hliteral⟩ := ha.spells.unique (hlexeme ▸ hb.spells)
  cases a
  cases b
  simp only [Token.mk.injEq]
  exact ⟨hkind, hlexeme, hliteral, hline⟩

theorem equals_iff_eq (ha : Scanned a) (hb : Scanned b) : a.equals b ↔ a = b := by
  constructor
  · intro h
    obtain ⟨hlexeme, hline⟩ := Token.lexeme_line_eq_of_equals h
    exact ha.eq_of_lexeme_line_eq hb hlexeme hline
  · rintro rfl
    exact ha.equals_self

theorem equals_iff_lexeme_line_eq (ha : Scanned a) (hb : Scanned b) : a.equals b ↔ a.lexeme = b.lexeme ∧ a.line = b.line := by
  refine ⟨Token.lexeme_line_eq_of_equals, ?_⟩
  rintro ⟨hlexeme, hline⟩
  exact (ha.equals_iff_eq hb).2 (ha.eq_of_lexeme_line_eq hb hlexeme hline)

end Scanned

/-- Lists of tokens of scans are equal token by token exactly when they are the same. -/
theorem isEqv_iff_eq {l l' : List Token} (h : ∀ t ∈ l, Scanned t) (h' : ∀ t ∈ l', Scanned t) :
    l.isEqv l' Token.equals ↔ l = l' := by
  induction l generalizing l' with
  | nil => cases l' <;> simp [List.isEqv]
  | cons a l ih =>
    cases l' with
    | nil => simp [List.isEqv]
    | cons b l' =>
      have hhead := (h a (by simp)).equals_iff_eq (h' b (by simp))
      have htail : l.isEqv l' Token.equals ↔ l = l' :=
        ih (fun t ht => h t (List.mem_cons_of_mem a ht)) fun t ht => h' t (List.mem_cons_of_mem b ht)
      rw [List.isEqv, Bool.and_eq_true, hhead, htail, List.cons.injEq]

/-- Equality of tokens is what it should be where both come from scans, of one source or of two. Two tokens are equal exactly when they
have the same lexeme on the same line, and exactly when they are the same in every part, the bits of a number included. So every token
is equal to itself, equal tokens are so in either order, and what is equal to the same token is equal. Two lists of tokens are
equal token by token only if they are the same, and two scans of one source always are, whatever becomes of its diagnostics. -/
theorem scan_equality :
    (∀ a b : Token, Scanned a → Scanned b →
        (a.equals b ↔ a.lexeme = b.lexeme ∧ a.line = b.line) ∧ (a.equals b ↔ a = b)) ∧
      Equivalence (fun a b : {t : Token // Scanned t} => (a.val.equals b.val : Prop)) ∧
      (∀ source source' : String, (tokens source).isEqv (tokens source') Token.equals ↔ tokens source = tokens source') ∧
      ∀ {σ τ : Type} (report : σ → Diagnostic → σ) (report' : τ → Diagnostic → τ) (source : String) (sink : σ) (sink' : τ),
        ∃ ts ts' s s', scanInto report source sink = some (ts, s) ∧ scanInto report' source sink' = some (ts', s') ∧
          ts.isEqv ts' Token.equals := by
  have hequal : ∀ source source' : String,
      (tokens source).isEqv (tokens source') Token.equals ↔ tokens source = tokens source' :=
    fun source source' => isEqv_iff_eq (fun _ ht => ⟨source, ht⟩) (fun _ ht => ⟨source', ht⟩)
  refine ⟨?_, ?_, hequal, ?_⟩
  · intro a b ha hb
    exact ⟨ha.equals_iff_lexeme_line_eq hb, ha.equals_iff_eq hb⟩
  · refine ⟨fun a => a.property.equals_self, ?_, ?_⟩
    · intro a b h
      exact (b.property.equals_iff_eq a.property).2 ((a.property.equals_iff_eq b.property).1 h).symm
    · intro a b c h h'
      have hab := (a.property.equals_iff_eq b.property).1 h
      have hbc := (b.property.equals_iff_eq c.property).1 h'
      exact (a.property.equals_iff_eq c.property).2 (hab.trans hbc)
  · intro σ τ report report' source sink sink'
    exact ⟨_, _, _, _, scanInto_eq report source sink, scanInto_eq report' source sink', (hequal source source).2 rfl⟩

/-- Zero, once by itself and once behind a text and a stray character. -/
theorem scan_equality_zero :
    (⟨.number, "0", some (.number ⟨0⟩), 1⟩ : Token) ∈ tokens "0" ∧
      (⟨.number, "0", some (.number ⟨0⟩), 1⟩ : Token) ∈ tokens "\"-0\"#0" ∧
      (⟨.number, "0", some (.number ⟨0⟩), 1⟩ : Token).equals ⟨.number, "0", some (.number ⟨0⟩), 1⟩ := by
  have h : (⟨.number, "0", some (.number ⟨0⟩), 1⟩ : Token) ∈ tokens "0" := by decide +kernel
  have h' : (⟨.number, "0", some (.number ⟨0⟩), 1⟩ : Token) ∈ tokens "\"-0\"#0" := by decide +kernel
  exact ⟨h, h', (scan_equality.1 _ _ ⟨_, h⟩ ⟨_, h'⟩).1.2 ⟨rfl, rfl⟩⟩

end Loxeme
