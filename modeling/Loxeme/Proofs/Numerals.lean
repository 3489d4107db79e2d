import Loxeme.Proofs.Rounding
import Loxeme.Proofs.Sinks
import Loxeme.Proofs.Spacing
import Mathlib.Tactic.Ring

/-!
# The numbers of a source

A numeral writes a rational: each of its digits counts a power of ten that its place in front of or behind the point decides
(`numeralValue`). The literal of a number token is what the rational that its lexeme writes is rounded to, and no source has digits
that are no number (`scan_numbers_rounded`).
-/

namespace Loxeme

open Binary64 (RoundsTo overflowBound)

/-! ## The rational that a numeral writes -/

/-- The number that a digit stands for. -/
def digitValue (c : Char) : Nat := c.toNat - '0'.toNat

/-- The value of digits in front of a point: a digit counts ten times as much as the next one. -/
def wholeValue : List Char → ℚ
  | [] => 0
  | c :: t => digitValue c * 10 ^ t.length + wholeValue t

/-- The value of digits behind a point: the first one counts tenths, the next one tenths of tenths. -/
def fractionValue : List Char → ℚ
  | [] => 0
  | c :: t => (digitValue c + fractionValue t) / 10

/-- The value of a text of digits in which one point may stand. -/
def numeralValue (t : List Char) : ℚ :=
  wholeValue (t.takeWhile (· ≠ '.')) + fractionValue (t.dropWhile (· ≠ '.')).tail

/-- The rational that a decimal number is. -/
def Decimal.value (d : Decimal) : ℚ := d.coefficient / 10 ^ d.places

theorem ofDigitChars_cons_zero (c : Char) (t : List Char) :
    Nat.ofDigitChars 10 (c :: t) 0 = digitValue c * 10 ^ t.length + Nat.ofDigitChars 10 t 0 := by
  rw [Nat.ofDigitChars_cons, Nat.ofDigitChars_eq_ofDigitChars_zero, digitValue]
  ring

theorem ofDigitChars_eq_wholeValue (t : List Char) : (Nat.ofDigitChars 10 t 0 : ℚ) = wholeValue t := by
  induction t with
  | nil => rfl
  | cons c t ih =>
    rw [ofDigitChars_cons_zero, wholeValue, ← ih]
    push_cast
    rfl

theorem ofDigitChars_eq_fractionValue (t : List Char) :
    (Nat.ofDigitChars 10 t 0 : ℚ) = fractionValue t * 10 ^ t.length := by
  induction t with
  | nil => simp [fractionValue]
  | cons c t ih =>
    rw [ofDigitChars_cons_zero, fractionValue, List.length_cons, Nat.cast_add, ih]
    push_cast
    ring

/-- The digits of a numeral are those in front of its point and those behind it. -/
theorem split_pointed {whole : List Char} (hw : Digits whole) (fraction : List Char) :
    (Decimal.pointed whole fraction).takeWhile (· ≠ '.') = whole ∧
      ((Decimal.pointed whole fraction).dropWhile (· ≠ '.')).tail = fraction := by
  have hpoint : ∀ c ∈ whole, decide (c ≠ '.') = true := by
    intro c hc
    refine decide_eq_true ?_
    rintro rfl
    exact absurd (hw.2 _ hc) (by decide)
  unfold Decimal.pointed
  split
  · next h =>
    have hdrop : whole.dropWhile (· ≠ '.') = [] := List.dropWhile_eq_nil_iff.2 hpoint
    rw [hdrop, List.takeWhile_eq_self_iff.2 hpoint, h]
    exact ⟨rfl, rfl⟩
  · rw [List.takeWhile_append_of_pos hpoint, List.dropWhile_append_of_pos hpoint]
    simp

/-- A number read from the digits of a numeral is the one that the numeral writes. -/
theorem value_ofDigits {whole : List Char} (hw : Digits whole) (fraction : List Char) :
    (Decimal.ofDigits whole fraction).value = numeralValue (Decimal.pointed whole fraction) := by
  obtain ⟨hwhole, hfraction⟩ := split_pointed hw fraction
  have hpow : (10 : ℚ) ^ fraction.length ≠ 0 := pow_ne_zero _ (by norm_num)
  rw [numeralValue, hwhole, hfraction, Decimal.value, Decimal.ofDigits, div_eq_iff hpow, Nat.ofDigitChars_append,
    Nat.ofDigitChars_eq_ofDigitChars_zero, Nat.cast_add, ofDigitChars_eq_fractionValue, Nat.cast_mul,
    ofDigitChars_eq_wholeValue]
  push_cast
  ring

theorem Decimal.value_nonneg (d : Decimal) : 0 ≤ d.value := div_nonneg (Nat.cast_nonneg _) (pow_nonneg (by norm_num) _)

/-- A decimal number is rounded to the floating-point number nearest to it. -/
theorem Decimal.roundsTo (d : Decimal) : RoundsTo d.value d.toBinary64 := by
  have h := Binary64.roundsTo_nearest d.coefficient (d := Nat.pow 10 d.places) (Nat.pow_pos (by decide))
  rwa [Nat.pow_eq, Nat.cast_pow, Nat.cast_ofNat] at h

/-! ## Number tokens -/

/-- What is asked of the literal of a number with its lexeme. -/
structure Rounded (lexeme : List Char) (x : Binary64) : Prop where
  /-- The lexeme is digits, with a point and further digits or without. -/
  numeral : Numeral lexeme
  /-- The literal is what the rational that the lexeme writes is rounded to, and nothing else is. -/
  roundsTo_iff : ∀ y, RoundsTo (numeralValue lexeme) y ↔ y = x
  /-- The sign bit is not set. -/
  isNegative_eq : x.isNegative = false
  /-- The literal is a number. -/
  isNaN_eq : x.isNaN = false
  /-- It is infinity from halfway above the greatest finite number on. -/
  infinity_iff : x = ⟨0x7ff0000000000000⟩ ↔ 2 ^ 1024 - 2 ^ 970 ≤ numeralValue lexeme
  /-- It is zero up to half of the least positive number. -/
  zero_iff : x = ⟨0⟩ ↔ numeralValue lexeme ≤ 1 / 2 ^ 1075

/-- The decimal that the digits of a numeral write is rounded as the numeral demands. -/
theorem rounded_pointed {whole fraction : List Char} (hw : Digits whole) (hf : fraction = [] ∨ Digits fraction) :
    Rounded (Decimal.pointed whole fraction) (Decimal.ofDigits whole fraction).toBinary64 := by
  have hround := (Decimal.ofDigits whole fraction).roundsTo
  have hnonneg := (Decimal.ofDigits whole fraction).value_nonneg
  rw [value_ofDigits hw] at hround hnonneg
  exact
    { numeral := ⟨whole, fraction, hw, hf, rfl⟩
      roundsTo_iff := fun y => ⟨fun hy => hy.unique hround, fun hy => hy ▸ hround⟩
      isNegative_eq := hround.isNegative_eq
      isNaN_eq := hround.isNaN_eq
      infinity_iff := hround.eq_infinity_iff
      zero_iff := hround.eq_zero_iff hnonneg }

/-- A lexeme of a number has a literal, which is rounded. -/
theorem Lexeme.rounded {t : List Char} {l : Option Literal} (h : Lexeme t .number l) :
    ∃ x, l = some (.number x) ∧ Rounded t x := by
  cases h with
  | symbol h => exact absurd rfl ((by decide : ∀ p ∈ symbols, p.2 ≠ .number) _ h)
  | whole h => exact ⟨_, rfl, rounded_pointed h (Or.inl rfl)⟩
  | @pointed whole fraction hw hf =>
    have h := rounded_pointed hw (Or.inr hf)
    rw [Decimal.pointed, if_neg hf.1] at h
    exact ⟨_, rfl, h⟩

theorem FirstSegment.rounded {r : List Char} {s : Segment} {l : Option Literal} (h : FirstSegment r s)
    (hs : s.yield = .token .number l) : ∃ x, l = some (.number x) ∧ Rounded s.text x := by
  cases h with
  | quoted =>
    obtain ⟨hkind, -⟩ := Yield.token.inj hs
    cases hkind
  | lexeme _ _ hlex =>
    obtain ⟨rfl, rfl⟩ := Yield.token.inj hs
    exact hlex.rounded
  | _ => cases hs

/-- Every number token of a source has a literal, which is rounded. -/
theorem rounded_of_mem_tokens {source : String} {t : Token} (h : t ∈ tokens source) (hk : t.kind = .number) :
    ∃ x, t.literal = some (.number x) ∧ Rounded t.lexeme.toList x := by
  obtain ⟨s, hs, htext, hy⟩ := exists_segment_of_mem_tokens h (by rw [hk]; decide)
  obtain ⟨rest, hfirst⟩ := firstSegment_of_mem hs
  rw [hk] at hy
  exact htext ▸ hfirst.rounded hy

/-! ## Digits are always a number -/

/-- What the pattern for numbers finds is read, as the rational that it writes. -/
theorem ofText?_of_numberAt? {r u : List Char} (h : numberAt? r = some u) :
    ∃ d, Decimal.ofText? u = some d ∧ d.value = numeralValue u := by
  obtain ⟨whole, fraction, hw, hf, rfl⟩ := (numberAt?_eq_some_iff.1 h).holds
  exact ⟨_, ofText?_pointed hw hf, value_ofDigits hw fraction⟩

/-- A scan of any source gives every number token the literal that its lexeme is rounded to, whatever the number of its digits. What
the pattern for numbers cuts out of a text is always read, and so nothing is ever reported as digits that are no number. -/
theorem scan_numbers_rounded (source : String) :
    (∃ collected : Collector,
      scanInto Collector.report source {} = some (tokens source, collected) ∧ collected.diagnostics = diagnostics source ∧
        ∀ d ∈ collected.diagnostics, ∀ lexeme, d.fault ≠ .invalidNumber lexeme) ∧
      (∀ t ∈ tokens source, t.kind = .number → ∃ x, t.literal = some (.number x) ∧ Rounded t.lexeme.toList x) ∧
      ∀ r u, numberAt? r = some u → ∃ d, Decimal.ofText? u = some d ∧ d.value = numeralValue u :=
  ⟨⟨_, scanInto_collector source, rfl, fun _ hd lexeme => fault_ne_invalidNumber hd lexeme⟩,
    fun _ ht hk => rounded_of_mem_tokens ht hk, fun _ _ h => ofText?_of_numberAt? h⟩

/-- Halfway between two numbers the lexeme is rounded to the even one. -/
theorem scan_numbers_rounded_halfway :
    (⟨.number, "9007199254740993", some (.number ⟨0x4340000000000000⟩), 1⟩ : Token) ∈ tokens "9007199254740993" ∧
      Rounded "9007199254740993".toList ⟨0x4340000000000000⟩ := by
  have hmem : (⟨.number, "9007199254740993", some (.number ⟨0x4340000000000000⟩), 1⟩ : Token) ∈ tokens "9007199254740993" := by
    decide +kernel
  obtain ⟨x, hx, hround⟩ := (scan_numbers_rounded "9007199254740993").2.1 _ hmem rfl
  obtain rfl := Literal.number.inj (Option.some.inj hx)
  exact ⟨hmem, hround⟩

end Loxeme
