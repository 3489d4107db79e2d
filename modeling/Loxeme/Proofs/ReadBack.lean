import Loxeme.Proofs.Numerals

/-!
# Printed numbers are read back

The decimals of a number's cell are the ones that the number attracts (`near_of_contains`), and the search for the shortest one stays
in the cell (`contains_shortestUpTo`), so what is printed for a finite number is rounded to the number again. It is printed as a
numeral, behind a minus sign if the sign bit is set, and a scan of the text gives just these tokens (`scan_displayed`).
-/

namespace Loxeme

open Binary64 (Near RoundsTo units units_pos fives infinityBits)

/-! ## The search stays in the cell -/

/-- A decimal number of no more than 1074 places, in the units of a cell. -/
def Decimal.steps (d : Decimal) : Nat := 4 * (d.coefficient * 10 ^ (1074 - d.places))

namespace Cell

variable {c : Cell} {g k n : Nat}

/-- A decimal is in a cell when it is between the two points halfway, and only a closed cell has the points themselves. -/
theorem contains_iff : c.contains n = true ↔ c.low ≤ n ∧ n ≤ c.high ∧ (n = c.low ∨ n = c.high → c.closed = true) := by
  unfold contains
  split
  · next h => simp [h]
  · next h =>
    simp only [Bool.and_eq_true, decide_eq_true_eq, h, imp_false, Bool.false_eq_true]
    omega

/-- A multiple that is taken is in the cell. -/
theorem contains_of_multiple? (h : c.multiple? g = some k) : c.contains (k * (4 * 10 ^ g)) = true := by
  simp only [multiple?, Nat.pow_eq] at h
  split at h
  · next habove =>
    rw [Bool.and_eq_true] at habove
    exact Option.some.inj h ▸ habove.1
  · split at h
    · next hbelow => exact Option.some.inj h ▸ hbelow
    · cases h

/-- A multiple of a power of ten with as few places as it needs. -/
theorem steps_multiple (k g : Nat) : (Decimal.mk (k * Nat.pow 10 (g - 1074)) (1074 - g)).steps = k * (4 * 10 ^ g) := by
  have hpow : 10 ^ g = 10 ^ (g - 1074) * 10 ^ (1074 - (1074 - g)) := by
    rw [← Nat.pow_add]
    congr 1
    omega
  simp only [Decimal.steps, Nat.pow_eq]
  rw [hpow]
  ring

/-- What the search gives is in the cell, as the number itself is. -/
theorem contains_shortestUpTo (hvalue : c.contains c.value = true) (hfour : 4 ∣ c.value) (g : Nat) :
    (c.shortestUpTo g).places ≤ 1074 ∧ c.contains (c.shortestUpTo g).steps = true := by
  induction g with
  | zero =>
    refine ⟨Nat.le_refl _, ?_⟩
    rwa [shortestUpTo, Decimal.steps, Nat.sub_self, Nat.pow_zero, Nat.mul_one, Nat.mul_div_cancel' hfour]
  | succ g ih =>
    unfold shortestUpTo
    split
    · next k hk =>
      refine ⟨Nat.sub_le _ _, ?_⟩
      rw [steps_multiple]
      exact contains_of_multiple? hk
    · exact ih

end Cell

/-! ## A number attracts the decimals of its cell -/

namespace Binary64

variable {x : Binary64} {n : Nat}

theorem fives_pos : 0 < fives := by
  unfold fives
  generalize 1074 = k
  exact Nat.pow_pos (by decide)

theorem value_cell (x : Binary64) : x.cell.value = 4 * x.magnitude * fives := rfl

theorem low_cell (x : Binary64) : x.cell.low = 4 * x.magnitude * fives - 2 * x.gapBelow * fives := by
  simp only [cell, gapBelow, Nat.pow_eq]
  split
  · next h =>
    have hshift : x.shift = x.shift - 1 + 1 := by
      simp only [shift]
      omega
    rw [hshift, Nat.pow_succ', Nat.add_sub_cancel]
  · rw [Nat.mul_assoc 2]

theorem high_cell (x : Binary64) : x.cell.high = 4 * x.magnitude * fives + 2 * x.gapAbove * fives := by
  simp only [cell, gapAbove, Nat.pow_eq, Nat.mul_assoc 2]

theorem closed_cell (x : Binary64) : x.cell.closed = true ↔ Even x.significand := by
  rw [Nat.even_iff]
  exact decide_eq_true_iff

/-- A number other than zero is in its own cell. -/
theorem contains_value_cell (h : 0 < x.magnitude) : x.cell.contains x.cell.value = true := by
  have hbelow : 0 < 2 * x.gapBelow * fives := Nat.mul_pos (Nat.mul_pos two_pos x.gapBelow_pos) fives_pos
  have habove : 0 < 2 * x.gapAbove * fives := Nat.mul_pos (Nat.mul_pos two_pos x.gapAbove_pos) fives_pos
  have hvalue : 0 < 4 * x.magnitude * fives := Nat.mul_pos (Nat.mul_pos four_pos h) fives_pos
  rw [Cell.contains_iff, value_cell, low_cell, high_cell]
  omega

/-- What is in the cell of a number is attracted by the number. -/
theorem near_of_contains (hm : 0 < x.magnitude) (h : x.cell.contains n = true) : Near x (n / (4 * fives)) := by
  have hF : (0 : ℚ) < 4 * fives := mul_pos four_pos (Nat.cast_pos.2 fives_pos)
  have hgap : 2 * x.gapBelow * fives ≤ 4 * x.magnitude * fives := by
    refine Nat.mul_le_mul_right _ ?_
    have := gapBelow_le_magnitude hm
    omega
  obtain ⟨hlow, hhigh, hends⟩ := Cell.contains_iff.1 h
  rw [closed_cell] at hends
  have hlow' : (x.cell.low : ℚ) = (x.magnitude - x.gapBelow / 2) * (4 * fives) := by
    rw [low_cell, Nat.cast_sub hgap]
    push_cast
    ring
  have hhigh' : (x.cell.high : ℚ) = (x.magnitude + x.gapAbove / 2) * (4 * fives) := by
    rw [high_cell]
    push_cast
    ring
  refine ⟨?_, fun _ => ?_, fun heq => hends (Or.inl ?_), fun _ heq => hends (Or.inr ?_)⟩
  · rw [le_div_iff₀ hF, ← hlow']
    exact Nat.cast_le.2 hlow
  · rw [div_le_iff₀ hF, ← hhigh']
    exact Nat.cast_le.2 hhigh
  · rw [div_eq_iff hF.ne', ← hlow'] at heq
    exact Nat.cast_injective heq
  · rw [div_eq_iff hF.ne', ← hhigh'] at heq
    exact Nat.cast_injective heq

theorem units_mul_fives : units * fives = 10 ^ 1074 := by
  unfold units fives
  generalize 1074 = k
  rw [Nat.pow_eq, Nat.cast_pow, ← mul_pow]
  norm_num

/-- The steps of a decimal number measure it. -/
theorem steps_div (d : Decimal) (h : d.places ≤ 1074) : (d.steps : ℚ) / (4 * fives) = d.value * units := by
  have hF : (4 : ℚ) * fives ≠ 0 := (mul_pos four_pos (Nat.cast_pos.2 fives_pos)).ne'
  have hpow : (10 : ℚ) ^ 1074 = 10 ^ d.places * 10 ^ (1074 - d.places) := by
    rw [← pow_add, Nat.add_sub_cancel' h]
  have hten : (10 : ℚ) ^ d.places ≠ 0 := pow_ne_zero _ (by norm_num)
  rw [div_eq_iff hF, Decimal.steps, Decimal.value]
  calc (((4 * (d.coefficient * 10 ^ (1074 - d.places)) : Nat)) : ℚ)
      = 4 * (d.coefficient / 10 ^ d.places * (10 ^ d.places * 10 ^ (1074 - d.places))) := by
        push_cast
        field_simp
    _ = 4 * (d.coefficient / 10 ^ d.places * (units * fives)) := by rw [← hpow, units_mul_fives]
    _ = d.coefficient / 10 ^ d.places * units * (4 * fives) := by ring

/-- What is read from the shortest decimal of a number other than zero without a sign is the number. -/
theorem toBinary64_toDecimal_of_pos (hx : x.isFinite = true) (hs : x.isNegative = false) (hm : 0 < x.magnitude) :
    x.toDecimal.toBinary64 = x := by
  rw [toDecimal, if_neg hm.ne']
  have hfour : 4 ∣ x.cell.value := ⟨x.magnitude * fives, by rw [value_cell, Nat.mul_assoc]⟩
  obtain ⟨hplaces, hcell⟩ := Cell.contains_shortestUpTo (contains_value_cell hm) hfour (Nat.log2 x.cell.high / 3 + 1)
  rw [← Cell.shortest] at hplaces hcell
  have hnear := near_of_contains hm hcell
  rw [steps_div _ hplaces] at hnear
  -- the decimal is rounded to the number that it was searched for, and to nothing else
  have hround := hnear.roundsTo hs (isFinite_iff.1 hx).le x.cell.shortest.value_nonneg
  exact x.cell.shortest.roundsTo.unique hround

/-- The number without its sign. -/
def abs (x : Binary64) : Binary64 := ⟨x.bits &&& 0x7fffffffffffffff⟩

theorem toNat_bits_abs (x : Binary64) : x.abs.bits.toNat = x.rank := by
  rw [abs, UInt64.toNat_and]
  exact Nat.and_two_pow_sub_one_eq_mod _ 63

theorem rank_abs (x : Binary64) : x.abs.rank = x.rank := by
  rw [rank, toNat_bits_abs, rank, Nat.mod_mod]

theorem isFinite_abs (x : Binary64) : x.abs.isFinite = x.isFinite := by
  rw [Bool.eq_iff_iff, isFinite_iff, isFinite_iff, rank_abs]

theorem isNegative_abs (x : Binary64) : x.abs.isNegative = false :=
  isNegative_eq_false_iff.2 ((toNat_bits_abs x).trans (rank_abs x).symm)

theorem abs_eq_self (h : x.isNegative = false) : x.abs = x := by
  rw [eq_ofRank (isNegative_abs x), rank_abs, ← eq_ofRank h]

/-- The decimal of a number does not depend on its sign. -/
theorem toDecimal_abs (x : Binary64) : x.abs.toDecimal = x.toDecimal := by
  obtain ⟨he, hf⟩ := fields_eq_of_rank_eq (rank_abs x)
  unfold toDecimal cell magnitude significand shift
  rw [he, hf]

/-- What is read from the decimal of a finite number is the number without its sign. -/
theorem toBinary64_toDecimal (hx : x.isFinite = true) : x.toDecimal.toBinary64 = x.abs := by
  rw [← toDecimal_abs]
  -- zero has no cell: the point halfway below it would be negative
  rcases Nat.eq_zero_or_pos x.abs.magnitude with hm | hm
  · have hzero : x.abs = ⟨0⟩ := by
      have hrank : x.abs.rank = 0 := by
        refine Nat.eq_zero_of_not_pos fun hpos => ?_
        have hlt := magnitude_lt_of_rank_lt (x := ⟨0⟩) (y := x.abs) hpos
        omega
      rw [eq_ofRank (isNegative_abs x), hrank]
      rfl
    rw [hzero]
    decide +kernel
  · exact toBinary64_toDecimal_of_pos ((isFinite_abs x).trans hx) (isNegative_abs x) hm

end Binary64

/-! ## The text of a number -/

theorem digits_toDigits (n : Nat) : Digits (Nat.toDigits 10 n) :=
  ⟨Nat.toDigits_ne_nil, fun _ hc => isDigit_iff.1 (Nat.isDigit_of_mem_toDigits (by decide) (by decide) hc)⟩

theorem digits_padded (width n : Nat) : Digits (Decimal.padded width n) := by
  refine ⟨List.append_ne_nil_of_right_ne_nil _ Nat.toDigits_ne_nil, fun c hc => ?_⟩
  rcases List.mem_append.1 hc with h | h
  · rw [List.eq_of_mem_replicate h]
    decide
  · exact (digits_toDigits n).2 c h

/-- A decimal number is written as digits, with a point and further digits or without. -/
theorem digits_whole_fraction (d : Decimal) : Digits d.whole ∧ (d.fraction = [] ∨ Digits d.fraction) := by
  refine ⟨digits_toDigits _, ?_⟩
  unfold Decimal.fraction
  split
  · exact Or.inl rfl
  · exact Or.inr (digits_padded _ _)

/-- What is written for a decimal number stands for a number token with its value. -/
theorem Decimal.lexeme_write (d : Decimal) : Lexeme d.write .number (some (.number d.toBinary64)) := by
  have h := Lexeme.number (digits_whole_fraction d).1 (digits_whole_fraction d).2
  rwa [Decimal.ofDigits_whole_fraction] at h

theorem display_eq {x : Binary64} (hx : x.isFinite = true) :
    x.display = (if x.isNegative then "-" else "") ++ String.ofList x.toDecimal.write := by
  have h : ¬ x.exponent = 2047 := of_decide_eq_true hx
  simp [Binary64.display, Binary64.isNaN, Binary64.isInfinite, h]

/-! ## A scan of the text -/

/-- What is told of segments without a line feed, all of them on the line that they begin on. -/
theorem filterMap_event?_place_of_newlines_eq_zero (p : Position) {l : List Segment} (h : newlines (l.flatMap Segment.text) = 0) :
    (place p l).filterMap Placed.event? = l.filterMap (Segment.event? · p.line) := by
  induction l generalizing p with
  | nil => rfl
  | cons s rest ih =>
    rw [List.flatMap_cons, newlines_append, Nat.add_eq_zero_iff] at h
    have hline : (p.advance s.text).line = p.line := by rw [Position.advance, h.1, Nat.add_zero]
    rw [events_place_cons, ih _ h.2, hline, List.filterMap_cons]
    cases s.event? p.line <;> rfl

/-- A source of one line gives what its segments tell of on that line. -/
theorem scan_of_newlines_eq_zero {source : String} {l : List Segment} (h : newlines source.toList = 0)
    (hl : segments source.toList = l) :
    tokens source = (l.filterMap (Segment.event? · 1)).filterMap Event.token? ++ [.endOfInput 1] ∧
      diagnostics source = (l.filterMap (Segment.event? · 1)).filterMap Event.diagnostic? := by
  have hevents : events source = l.filterMap (Segment.event? · 1) := by
    rw [← hl]
    refine filterMap_event?_place_of_newlines_eq_zero _ ?_
    rwa [text_segments]
  have hend : endLine source = 1 := by rw [endLine_eq, h]
  rw [tokens, diagnostics, hevents, hend]
  exact ⟨rfl, rfl⟩

/-- What is written for a decimal number is one segment. -/
theorem segments_write (d : Decimal) :
    segments d.write = [⟨d.write, .token .number (some (.number d.toBinary64))⟩] := by
  obtain ⟨c, t, hwrite, hc⟩ := exists_pointed_eq_cons (digits_whole_fraction d).1 d.fraction
  have hopens : ¬ Opens (d.write ++ []) := by
    rw [List.append_nil, Decimal.write, hwrite]
    exact not_opens_of_digit hc
  have hlongest : Longest IsLexeme (d.write ++ []) d.write := by
    rw [List.append_nil]
    exact ⟨List.prefix_rfl, ⟨_, _, d.lexeme_write⟩, fun u hu _ => hu.length_le⟩
  have h := segments_of_firstSegment (FirstSegment.lexeme hopens hlongest d.lexeme_write)
  rwa [List.append_nil, segments_nil] at h

/-- In front of anything else, a minus sign is a segment. -/
theorem segments_minus (t : List Char) : segments ('-' :: t) = ⟨['-'], .token .minus none⟩ :: segments t := by
  rw [segments_cons]
  rfl

theorem scan_write (d : Decimal) :
    tokens (String.ofList d.write) =
        [⟨.number, String.ofList d.write, some (.number d.toBinary64), 1⟩, .endOfInput 1] ∧
      diagnostics (String.ofList d.write) = [] := by
  have hsegments := segments_write d
  have hline := d.lexeme_write.newlines_eq
  rw [← String.toList_ofList (l := d.write)] at hline
  exact scan_of_newlines_eq_zero hline (by rw [String.toList_ofList, hsegments])

theorem scan_minus_write (d : Decimal) :
    tokens ("-" ++ String.ofList d.write) =
        [⟨.minus, "-", none, 1⟩, ⟨.number, String.ofList d.write, some (.number d.toBinary64), 1⟩, .endOfInput 1] ∧
      diagnostics ("-" ++ String.ofList d.write) = [] := by
  have htext : ("-" ++ String.ofList d.write).toList = '-' :: d.write := by simp
  have hline : newlines ("-" ++ String.ofList d.write).toList = 0 := by
    rw [htext, newlines_cons, d.lexeme_write.newlines_eq]
    rfl
  exact scan_of_newlines_eq_zero hline (by rw [htext, segments_minus, segments_write])

/-- The text of a finite number is scanned without a fault. Without a sign the only token is the number, with the bits that were
printed and the whole text for its lexeme; with one, also that of zero, a minus sign stands in front of the number without it. -/
theorem scan_displayed (x : Binary64) (hx : x.isFinite = true) :
    diagnostics (Literal.number x).display = [] ∧
      (x.isNegative = false → tokens (Literal.number x).display =
        [⟨.number, (Literal.number x).display, some (.number x), 1⟩, ⟨.endOfInput, "", none, 1⟩]) ∧
      (x.isNegative = true → (Literal.number x).display = "-" ++ (Literal.number x.abs).display ∧
        tokens (Literal.number x).display =
          [⟨.minus, "-", none, 1⟩, ⟨.number, (Literal.number x.abs).display, some (.number x.abs), 1⟩,
            ⟨.endOfInput, "", none, 1⟩]) := by
  have hread := Binary64.toBinary64_toDecimal hx
  have habs : (Literal.number x.abs).display = String.ofList x.toDecimal.write := by
    rw [Literal.display, display_eq ((Binary64.isFinite_abs x).trans hx), Binary64.isNegative_abs, if_neg Bool.false_ne_true,
      String.empty_append, Binary64.toDecimal_abs]
  cases hs : x.isNegative with
  | false =>
    obtain ⟨htokens, hnone⟩ := scan_write x.toDecimal
    rw [← habs, hread, Binary64.abs_eq_self hs] at htokens
    rw [← habs, Binary64.abs_eq_self hs] at hnone
    exact ⟨hnone, fun _ => htokens, nofun⟩
  | true =>
    have htext : (Literal.number x).display = "-" ++ String.ofList x.toDecimal.write := by
      rw [Literal.display, display_eq hx, hs, if_pos rfl]
    obtain ⟨htokens, hnone⟩ := scan_minus_write x.toDecimal
    rw [← htext, hread, ← habs] at htokens
    rw [← htext] at hnone
    rw [← habs] at htext
    exact ⟨hnone, nofun, fun _ => ⟨htext, htokens⟩⟩

/-- The least positive number, and the greatest finite one behind a sign. -/
theorem scan_displayed_least_greatest :
    (tokens (Literal.number ⟨1⟩).display =
        [⟨.number, (Literal.number ⟨1⟩).display, some (.number ⟨1⟩), 1⟩, ⟨.endOfInput, "", none, 1⟩]) ∧
      tokens (Literal.number ⟨0xffefffffffffffff⟩).display =
        [⟨.minus, "-", none, 1⟩,
          ⟨.number, (Literal.number ⟨0x7fefffffffffffff⟩).display, some (.number ⟨0x7fefffffffffffff⟩), 1⟩,
          ⟨.endOfInput, "", none, 1⟩] :=
  ⟨(scan_displayed ⟨1⟩ (by decide)).2.1 (by decide), ((scan_displayed ⟨0xffefffffffffffff⟩ (by decide)).2.2 (by decide)).2⟩

end Loxeme
