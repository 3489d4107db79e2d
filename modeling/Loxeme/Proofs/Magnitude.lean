import Loxeme.Binary64.Nearest
import Mathlib.Algebra.Order.Ring.Nat
import Mathlib.Tactic.Ring

/-!
# The order of magnitudes

The bits of a number below its sign, its rank, count the magnitudes from zero upwards, with infinity behind the greatest finite one.
So magnitudes are compared by rank, and from one to the next there is a gap: a number is at least its own gap away from every number
of greater rank (`magnitude_add_gapAbove_le`), and at least the gap of the other one away from that (`magnitude_add_gapBelow_le`).
-/

namespace Loxeme

namespace Binary64

variable {x y : Binary64} {n : Nat}

/-! ## Fields -/

/-- The bits of a number below its sign. -/
def rank (x : Binary64) : Nat := x.bits.toNat % 2 ^ 63

/-- The number without a sign that has a rank. -/
def ofRank (n : Nat) : Binary64 := ⟨UInt64.ofNat n⟩

theorem fraction_lt (x : Binary64) : x.fraction < 2 ^ 52 := Nat.mod_lt _ (by decide)

theorem rank_eq (x : Binary64) : x.rank = x.exponent * 2 ^ 52 + x.fraction := by
  simp only [rank, exponent, fraction, Nat.pow_eq]
  omega

theorem isNegative_eq_false_iff : x.isNegative = false ↔ x.bits.toNat = x.rank := by
  have hlt := x.bits.toNat_lt
  simp only [isNegative, rank, Nat.pow_eq, decide_eq_false_iff_not]
  omega

theorem toNat_ofRank (h : n < 2 ^ 63) : (ofRank n).bits.toNat = n :=
  UInt64.toNat_ofNat_of_lt' (Nat.lt_trans h (by decide))

theorem rank_ofRank (h : n < 2 ^ 63) : (ofRank n).rank = n := by
  rw [rank, toNat_ofRank h, Nat.mod_eq_of_lt h]

theorem isNegative_ofRank (h : n < 2 ^ 63) : (ofRank n).isNegative = false := by
  rw [isNegative_eq_false_iff, toNat_ofRank h, rank_ofRank h]

/-- A number without a sign is determined by its rank. -/
theorem eq_ofRank (h : x.isNegative = false) : x = ofRank x.rank := by
  rw [← isNegative_eq_false_iff.1 h, ofRank, UInt64.ofNat_toNat]

theorem isFinite_iff : x.isFinite = true ↔ x.rank < infinityBits := by
  have hf := x.fraction_lt
  have hr := x.rank_eq
  have he : x.exponent < 2 ^ 11 := Nat.mod_lt _ (by decide)
  simp only [isFinite, infinityBits, Nat.pow_eq, decide_eq_true_eq]
  omega

theorem isInfinite_iff : x.isInfinite = true ↔ x.rank = infinityBits := by
  have hf := x.fraction_lt
  have hr := x.rank_eq
  simp only [isInfinite, infinityBits, Nat.pow_eq, Bool.and_eq_true, decide_eq_true_eq]
  omega

/-! ## Gaps -/

/-- How far a number is from the next greater one. -/
def gapAbove (x : Binary64) : Nat := 2 ^ x.shift

/-- How far a number is from the next less one: half as far where it is the least of its exponent, and that is not the least of
all. -/
def gapBelow (x : Binary64) : Nat := if x.fraction = 0 ∧ 1 < x.exponent then 2 ^ (x.shift - 1) else 2 ^ x.shift

theorem gapAbove_pos (x : Binary64) : 0 < x.gapAbove := Nat.two_pow_pos _

theorem gapBelow_pos (x : Binary64) : 0 < x.gapBelow := by
  unfold gapBelow
  split <;> exact Nat.two_pow_pos _

theorem gapBelow_le_gapAbove (x : Binary64) : x.gapBelow ≤ x.gapAbove := by
  unfold gapBelow gapAbove
  split
  · exact Nat.pow_le_pow_right (by decide) (Nat.sub_le _ _)
  · exact Nat.le_refl _

theorem magnitude_eq (x : Binary64) : x.magnitude = x.significand * 2 ^ x.shift := rfl

theorem significand_eq_of_pos (h : 0 < x.exponent) : x.significand = 2 ^ 52 + x.fraction := if_neg h.ne'

theorem significand_lt (x : Binary64) : x.significand < 2 ^ 53 := by
  have hf := x.fraction_lt
  simp only [significand, Nat.pow_eq]
  split <;> omega

/-- Ranks are compared by exponent first and then by fraction. -/
theorem exponent_lt_or_of_rank_lt (h : x.rank < y.rank) :
    x.exponent < y.exponent ∨ x.exponent = y.exponent ∧ x.fraction < y.fraction := by
  have hx := x.fraction_lt
  have hy := y.fraction_lt
  rw [rank_eq, rank_eq] at h
  omega

theorem shift_eq_of_exponent_eq (h : x.exponent = y.exponent) : x.shift = y.shift := congrArg (· - 1) h

/-- Of two numbers of the same exponent the one with the greater fraction has the greater significand. -/
theorem significand_lt_of_fraction_lt (he : x.exponent = y.exponent) (hf : x.fraction < y.fraction) :
    x.significand < y.significand := by
  simp only [significand, he]
  split <;> omega

/-- All numbers of an exponent are a gap below the numbers of a greater one. -/
theorem magnitude_add_gapAbove_le_of_exponent (h : x.exponent < y.exponent) :
    x.magnitude + x.gapAbove ≤ 2 ^ 52 * 2 ^ y.shift := by
  have hsum : x.magnitude + x.gapAbove = (x.significand + 1) * 2 ^ x.shift := by
    rw [magnitude_eq, gapAbove, Nat.succ_mul]
  rw [hsum]
  by_cases h0 : x.exponent = 0
  · have hs : x.significand + 1 ≤ 2 ^ 52 := by
      rw [significand, if_pos h0]
      exact x.fraction_lt
    have hshift : x.shift = 0 := by rw [shift, h0]
    rw [hshift, Nat.pow_zero, Nat.mul_one]
    exact hs.trans (Nat.le_mul_of_pos_right _ (Nat.two_pow_pos _))
  · -- the numbers of the next exponent begin at twice the first of these
    have hle : 2 ^ (x.shift + 1) ≤ 2 ^ y.shift := Nat.pow_le_pow_right (by decide) (by simp only [shift]; omega)
    calc (x.significand + 1) * 2 ^ x.shift ≤ 2 ^ 53 * 2 ^ x.shift := Nat.mul_le_mul_right _ x.significand_lt
      _ = 2 ^ 52 * 2 ^ (x.shift + 1) := by ring
      _ ≤ 2 ^ 52 * 2 ^ y.shift := Nat.mul_le_mul_left _ hle

theorem le_magnitude_of_pos (h : 0 < y.exponent) : (2 ^ 52 + y.fraction) * 2 ^ y.shift = y.magnitude := by
  rw [magnitude_eq, significand_eq_of_pos h]

/-- A number is its gap away from every number of greater rank. -/
theorem magnitude_add_gapAbove_le (h : x.rank < y.rank) : x.magnitude + x.gapAbove ≤ y.magnitude := by
  rcases exponent_lt_or_of_rank_lt h with he | ⟨he, hf⟩
  · refine (magnitude_add_gapAbove_le_of_exponent he).trans ?_
    rw [← le_magnitude_of_pos (Nat.zero_lt_of_lt he)]
    exact Nat.mul_le_mul_right _ (Nat.le_add_right _ _)
  · rw [magnitude_eq, magnitude_eq, gapAbove, shift_eq_of_exponent_eq he, ← Nat.succ_mul]
    exact Nat.mul_le_mul_right _ (significand_lt_of_fraction_lt he hf)

theorem magnitude_lt_of_rank_lt (h : x.rank < y.rank) : x.magnitude < y.magnitude :=
  (Nat.lt_add_of_pos_right x.gapAbove_pos).trans_le (magnitude_add_gapAbove_le h)

/-- A number is the gap of every number of greater rank away from it. -/
theorem magnitude_add_gapBelow_le (h : x.rank < y.rank) : x.magnitude + y.gapBelow ≤ y.magnitude := by
  rcases exponent_lt_or_of_rank_lt h with he | ⟨he, hf⟩
  · have hy := le_magnitude_of_pos (Nat.zero_lt_of_lt he)
    have hx := magnitude_add_gapAbove_le_of_exponent he
    by_cases hleast : y.fraction = 0 ∧ 1 < y.exponent
    · -- the gap below is half of the gap above, and `x` has a shift less by one or more
      have hshift : y.shift = y.shift - 1 + 1 := by simp only [shift]; omega
      have hle : x.magnitude ≤ (2 ^ 53 - 1) * 2 ^ (y.shift - 1) := by
        rw [magnitude_eq]
        refine Nat.mul_le_mul (Nat.le_sub_one_of_lt x.significand_lt) (Nat.pow_le_pow_right (by decide) ?_)
        simp only [shift]
        omega
      rw [← hy, gapBelow, if_pos hleast, hleast.1, hshift, Nat.pow_succ, Nat.add_sub_cancel]
      omega
    · rw [gapBelow, if_neg hleast, ← hy]
      by_cases hf : y.fraction = 0
      · -- `y` is the least number with a hidden bit, and the gaps on its two sides are the same
        have hshift : x.shift = y.shift := by
          simp only [shift]
          omega
        rwa [gapAbove, hshift, ← Nat.add_zero (2 ^ 52), ← hf] at hx
      · have hone : (2 ^ 52 + 1) * 2 ^ y.shift ≤ (2 ^ 52 + y.fraction) * 2 ^ y.shift :=
          Nat.mul_le_mul_right _ (by omega)
        rw [Nat.succ_mul] at hone
        omega
  · have hgap : y.gapBelow ≤ x.gapAbove := by
      rw [gapAbove, shift_eq_of_exponent_eq he]
      exact y.gapBelow_le_gapAbove
    exact (Nat.add_le_add_left hgap _).trans (magnitude_add_gapAbove_le h)

/-- Numbers of the same rank have the same fields. -/
theorem fields_eq_of_rank_eq (h : x.rank = y.rank) : x.exponent = y.exponent ∧ x.fraction = y.fraction := by
  have hx := x.fraction_lt
  have hy := y.fraction_lt
  rw [rank_eq, rank_eq] at h
  omega

theorem magnitude_eq_of_rank_eq (h : x.rank = y.rank) : x.magnitude = y.magnitude := by
  obtain ⟨he, hf⟩ := fields_eq_of_rank_eq h
  simp only [magnitude, significand, shift, he, hf]

/-- The parity of a significand is that of the rank. -/
theorem even_significand_iff : Even x.significand ↔ Even x.rank := by
  have hs : x.significand % 2 = x.fraction % 2 := by
    simp only [significand, Nat.pow_eq]
    split <;> omega
  have hr : x.rank % 2 = x.fraction % 2 := by
    rw [rank_eq]
    omega
  rw [Nat.even_iff, Nat.even_iff, hs, hr]

end Binary64

end Loxeme
