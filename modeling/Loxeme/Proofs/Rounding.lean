import Loxeme.Proofs.Magnitude
import Mathlib.Algebra.Order.Field.Rat
import Mathlib.Tactic.FieldSimp
import Mathlib.Tactic.Linarith
import Mathlib.Tactic.Positivity

/-!
# Rounding to the nearest number

`RoundsTo q x` says that `x` is what a rational `q` that is not negative is rounded to: no finite number is nearer to `q`, of two that
are equally near it is the one with the even significand, and from halfway above the greatest finite number on it is infinity. This
determines `x` (`RoundsTo.unique`). A number attracts the rationals up to halfway to the next ones on its two sides
(`Near.roundsTo`), and the number nearest to a quotient attracts the quotient (`near_nearest`).
-/

namespace Loxeme

namespace Binary64

variable {x y : Binary64} {q r : ℚ} {m n s d : Nat}

/-- The number of units in one, magnitudes being counted in units of `2 ^ -1074`. -/
def units : ℚ := 2 ^ 1074

/-- The rational that a finite number is. -/
def value (x : Binary64) : ℚ := (if x.isNegative then -1 else 1) * (x.magnitude / units)

/-- Halfway from the greatest finite number to the one that would follow it. -/
def overflowBound : ℚ := 2 ^ 1024 - 2 ^ 970

/-- What a rational that is not negative is rounded to. -/
structure RoundsTo (q : ℚ) (x : Binary64) : Prop where
  /-- The number has no sign. -/
  isNegative_eq : x.isNegative = false
  /-- From the bound on it is infinity. -/
  isInfinite : overflowBound ≤ q → x.isInfinite = true
  /-- Below the bound it is finite. -/
  isFinite : q < overflowBound → x.isFinite = true
  /-- Then no finite number is nearer. -/
  nearest : q < overflowBound → ∀ y : Binary64, y.isFinite = true → |x.value - q| ≤ |y.value - q|
  /-- If another one is as near, the significand is even. -/
  even : q < overflowBound → ∀ y : Binary64, y.isFinite = true → |y.value - q| = |x.value - q| → y.value ≠ x.value →
    Even x.significand

/-- The numbers, in units of `2 ^ -1074`, that are no further from `x` than halfway to the next ones, and halfway only if `x` has an
even significand. Infinity has no next one above it. -/
structure Near (x : Binary64) (r : ℚ) : Prop where
  ge : (x.magnitude : ℚ) - x.gapBelow / 2 ≤ r
  le : x.isFinite = true → r ≤ x.magnitude + x.gapAbove / 2
  even_of_eq_low : r = x.magnitude - x.gapBelow / 2 → Even x.significand
  even_of_eq_high : x.isFinite = true → r = x.magnitude + x.gapAbove / 2 → Even x.significand

/-! ## Values -/

theorem units_pos : 0 < units := pow_pos two_pos 1074

theorem value_eq (h : x.isNegative = false) : x.value = x.magnitude / units := by
  rw [value, h, if_neg Bool.false_ne_true, one_mul]

theorem value_eq_neg (h : x.isNegative = true) : x.value = -(x.magnitude / units) := by
  rw [value, h, if_pos rfl, neg_one_mul]

theorem abs_magnitude_sub (x : Binary64) (q : ℚ) : |x.magnitude - q * units| = |x.magnitude / units - q| * units := by
  rw [← abs_of_pos units_pos, ← abs_mul, abs_of_pos units_pos, sub_mul, div_mul_cancel₀ _ units_pos.ne']

theorem abs_value_sub (h : x.isNegative = false) (q : ℚ) : |x.value - q| * units = |x.magnitude - q * units| := by
  rw [abs_magnitude_sub, value_eq h]

/-- A sign only takes a number further away. -/
theorem le_abs_value_sub (x : Binary64) (hq : 0 ≤ q) : |x.magnitude - q * units| ≤ |x.value - q| * units := by
  rw [abs_magnitude_sub]
  refine mul_le_mul_of_nonneg_right ?_ units_pos.le
  cases hx : x.isNegative with
  | false => rw [value_eq hx]
  | true =>
    have hm : 0 ≤ x.magnitude / units := div_nonneg (Nat.cast_nonneg _) units_pos.le
    rw [value_eq_neg hx, ← neg_add', abs_neg, abs_of_nonneg (add_nonneg hm hq), abs_le]
    constructor <;> linarith

theorem value_lt_value (hx : x.isNegative = false) (hy : y.isNegative = false) (h : x.rank < y.rank) : x.value < y.value := by
  rw [value_eq hx, value_eq hy]
  exact div_lt_div_of_pos_right (Nat.cast_lt.2 (magnitude_lt_of_rank_lt h)) units_pos

/-! ## A rational is rounded to one number only -/

/-- A rational is not rounded to two finite numbers of which one is greater. -/
theorem RoundsTo.not_rank_lt (h : RoundsTo q x) (h' : RoundsTo q y) (hq : q < overflowBound) : ¬ x.rank < y.rank := by
  intro hlt
  have hxy := value_lt_value h.isNegative_eq h'.isNegative_eq hlt
  have hdist : |y.value - q| = |x.value - q| :=
    le_antisymm (h'.nearest hq x (h.isFinite hq)) (h.nearest hq y (h'.isFinite hq))
  have hmid : y.value - q = q - x.value := by
    rcases abs_eq_abs.1 hdist with he | he
    · exact absurd (sub_left_injective he) hxy.ne'
    · rw [he, neg_sub]
  -- both significands are even, so that there is a number between the two, which is nearer
  have hx := even_significand_iff.1 (h.even hq y (h'.isFinite hq) hdist hxy.ne')
  have hy := even_significand_iff.1 (h'.even hq x (h.isFinite hq) hdist.symm hxy.ne)
  rw [Nat.even_iff] at hx hy
  have hfinite := isFinite_iff.1 (h'.isFinite hq)
  have hbound : y.rank < 2 ^ 63 := Nat.mod_lt _ (by decide)
  have hrank : (ofRank (x.rank + 1)).rank = x.rank + 1 := rank_ofRank (by omega)
  have hz := isNegative_ofRank (n := x.rank + 1) (by omega)
  have hxz : x.value < (ofRank (x.rank + 1)).value := value_lt_value h.isNegative_eq hz (by omega)
  have hzy : (ofRank (x.rank + 1)).value < y.value := value_lt_value hz h'.isNegative_eq (by omega)
  have hnearest := h.nearest hq (ofRank (x.rank + 1)) (isFinite_iff.2 (by omega))
  rw [abs_of_nonpos (by linarith : x.value - q ≤ 0), le_abs] at hnearest
  rcases hnearest with hn | hn <;> linarith

/-- What a rational is rounded to is determined. -/
theorem RoundsTo.unique (h : RoundsTo q x) (h' : RoundsTo q y) : x = y := by
  have hrank : x.rank = y.rank := by
    rcases lt_or_ge q overflowBound with hq | hq
    · exact Nat.le_antisymm (Nat.le_of_not_lt (h'.not_rank_lt h hq)) (Nat.le_of_not_lt (h.not_rank_lt h' hq))
    · rw [isInfinite_iff.1 (h.isInfinite hq), isInfinite_iff.1 (h'.isInfinite hq)]
  rw [eq_ofRank h.isNegative_eq, hrank, ← eq_ofRank h'.isNegative_eq]

/-! ## What a number attracts is rounded to it -/

/-- A number is the nearest to what it attracts, and if another one is as near, its significand is even. -/
theorem Near.abs_sub_le (h : Near x r) (hx : x.isFinite = true) (hne : y.rank ≠ x.rank) :
    |x.magnitude - r| ≤ |y.magnitude - r| ∧ (|y.magnitude - r| ≤ |x.magnitude - r| → Even x.significand) := by
  have hge := h.ge
  have hle := h.le hx
  rcases Nat.lt_or_gt_of_ne hne with hlt | hlt
  · have hgap : (y.magnitude : ℚ) + x.gapBelow ≤ x.magnitude := by exact_mod_cast magnitude_add_gapBelow_le hlt
    have hpos : (0 : ℚ) < x.gapBelow := Nat.cast_pos.2 x.gapBelow_pos
    rw [abs_of_nonpos (by linarith : (y.magnitude : ℚ) - r ≤ 0), abs_le]
    refine ⟨by constructor <;> linarith, ?_⟩
    intro hxy
    refine h.even_of_eq_low (le_antisymm ?_ hge)
    rcases le_abs.1 hxy with hn | hn <;> linarith
  · have hgap : (x.magnitude : ℚ) + x.gapAbove ≤ y.magnitude := by exact_mod_cast magnitude_add_gapAbove_le hlt
    have hpos : (0 : ℚ) < x.gapAbove := Nat.cast_pos.2 x.gapAbove_pos
    rw [abs_of_nonneg (by linarith : (0 : ℚ) ≤ y.magnitude - r), abs_le]
    refine ⟨by constructor <;> linarith, ?_⟩
    intro hxy
    refine h.even_of_eq_high hx (le_antisymm hle ?_)
    rcases le_abs.1 hxy with hn | hn <;> linarith

/-- The bound, in units, is the middle between the significands `2 ^ 53 - 1` and `2 ^ 53` at the greatest shift. -/
theorem overflowBound_mul_units : overflowBound * units = 2 ^ 53 * 2 ^ 2045 - 2 ^ 2045 / 2 := by
  have hpow : ∀ {a b c e : Nat}, a + b = c + e → (2 : ℚ) ^ a * 2 ^ b = 2 ^ c * 2 ^ e := by
    intro a b c e h
    rw [← pow_add, ← pow_add, h]
  have hhalf : (2 : ℚ) ^ 970 * 2 ^ 1074 = 2 ^ 2045 / 2 := by
    rw [hpow (by decide : 970 + 1074 = 2044 + 0), pow_zero, mul_one, pow_succ 2 2044, mul_div_cancel_right₀ _ two_ne_zero]
  rw [overflowBound, units, sub_mul, hhalf, hpow (by decide : 1024 + 1074 = 53 + 2045)]

/-- What infinity attracts begins at the bound. -/
theorem magnitude_sub_of_isInfinite (h : x.isInfinite = true) :
    (x.magnitude : ℚ) - x.gapBelow / 2 = overflowBound * units := by
  simp only [isInfinite, Bool.and_eq_true, decide_eq_true_eq] at h
  have hshift : x.shift = 2045 + 1 := by rw [shift, h.1]
  have hmag : x.magnitude = 2 ^ 53 * 2 ^ 2045 := by
    rw [← le_magnitude_of_pos (by omega), h.2, hshift, Nat.add_zero, pow_succ' 2 2045, ← Nat.mul_assoc,
      (by decide : 2 ^ 52 * 2 = 2 ^ 53)]
  have hgap : x.gapBelow = 2 ^ 2045 := by rw [gapBelow, if_pos ⟨h.2, by omega⟩, hshift, Nat.add_sub_cancel]
  rw [hmag, hgap, overflowBound_mul_units, Nat.cast_mul, Nat.cast_pow, Nat.cast_pow, Nat.cast_ofNat]

/-- What a finite number attracts is below the bound. The greatest of them, halfway to infinity, has an odd significand. -/
theorem Near.lt_overflowBound (h : Near x r) (hx : x.isFinite = true) : r < overflowBound * units := by
  have hle := h.le hx
  have hrank := isFinite_iff.1 hx
  have hinf : (ofRank infinityBits).isInfinite = true := isInfinite_iff.2 (rank_ofRank (by decide))
  have hinfrank : (ofRank infinityBits).rank = infinityBits := rank_ofRank (by decide)
  have habove : (x.magnitude : ℚ) + x.gapAbove ≤ (ofRank infinityBits).magnitude := by
    exact_mod_cast magnitude_add_gapAbove_le (hinfrank ▸ hrank)
  have hbelow : (x.magnitude : ℚ) + (ofRank infinityBits).gapBelow ≤ (ofRank infinityBits).magnitude := by
    exact_mod_cast magnitude_add_gapBelow_le (hinfrank ▸ hrank)
  rw [← magnitude_sub_of_isInfinite hinf]
  refine lt_of_le_of_ne (by linarith) ?_
  intro heq
  have heven := even_significand_iff.1 (h.even_of_eq_high hx (by linarith))
  have hnext : x.rank + 1 < infinityBits := by
    rw [Nat.even_iff] at heven
    simp only [infinityBits, Nat.pow_eq] at hrank ⊢
    omega
  have hz : (ofRank (x.rank + 1)).rank = x.rank + 1 := rank_ofRank (Nat.lt_trans hnext (by decide))
  have h1 : (x.magnitude : ℚ) + x.gapAbove ≤ (ofRank (x.rank + 1)).magnitude := by
    exact_mod_cast magnitude_add_gapAbove_le (by omega)
  have h2 : ((ofRank (x.rank + 1)).magnitude : ℚ) < (ofRank infinityBits).magnitude := by
    exact_mod_cast magnitude_lt_of_rank_lt (by omega)
  linarith

theorem gapBelow_le_magnitude (h : 0 < x.magnitude) : x.gapBelow ≤ x.magnitude := by
  have hzero : (ofRank 0).rank = 0 := rank_ofRank (by decide)
  have hrank : 0 < x.rank := by
    refine Nat.pos_of_ne_zero fun h0 => ?_
    have := magnitude_eq_of_rank_eq (h0.trans hzero.symm)
    rw [this] at h
    exact absurd h (by decide)
  have := magnitude_add_gapBelow_le (x := ofRank 0) (y := x) (by omega)
  omega

theorem Near.pos (h : Near x r) (hm : 0 < x.magnitude) : 0 < r := by
  have hge := h.ge
  have hgap : (x.gapBelow : ℚ) ≤ x.magnitude := Nat.cast_le.2 (gapBelow_le_magnitude hm)
  have hpos : (0 : ℚ) < x.magnitude := Nat.cast_pos.2 hm
  linarith

/-- A number that differs in its sign alone is further from what a number attracts, unless the two are zero. -/
theorem Near.value_eq_of_rank_eq (h : Near x (q * units)) (hx : x.isNegative = false) (hq : 0 ≤ q) (hrank : y.rank = x.rank)
    (hdist : |y.value - q| = |x.value - q|) : y.value = x.value := by
  have hm := magnitude_eq_of_rank_eq hrank
  cases hy : y.isNegative with
  | false => rw [value_eq hy, value_eq hx, hm]
  | true =>
    have hneg : y.value = -x.value := by rw [value_eq_neg hy, value_eq hx, hm]
    rcases Nat.eq_zero_or_pos x.magnitude with h0 | hpos
    · rw [hneg, value_eq hx, h0, Nat.cast_zero, zero_div, neg_zero]
    · have hq' : 0 < q := pos_of_mul_pos_left (h.pos hpos) units_pos.le
      have hv : 0 < x.value := value_eq hx ▸ div_pos (Nat.cast_pos.2 hpos) units_pos
      rw [hneg, ← neg_add', abs_neg, abs_of_nonneg (add_nonneg hv.le hq)] at hdist
      rcases le_abs.1 hdist.le with hn | hn <;> linarith

/-- What a number attracts is rounded to it. -/
theorem Near.roundsTo (h : Near x (q * units)) (hx : x.isNegative = false) (hrank : x.rank ≤ infinityBits) (hq : 0 ≤ q) :
    RoundsTo q x := by
  have hfinite : x.isFinite = true ↔ q < overflowBound := by
    refine ⟨fun hf => lt_of_mul_lt_mul_right (h.lt_overflowBound hf) units_pos.le, fun hlt => ?_⟩
    refine isFinite_iff.2 (lt_of_le_of_ne hrank fun hr => ?_)
    have hge := h.ge
    rw [magnitude_sub_of_isInfinite (isInfinite_iff.2 hr)] at hge
    exact absurd (le_of_mul_le_mul_right hge units_pos) (not_le.2 hlt)
  refine ⟨hx, ?_, hfinite.2, ?_, ?_⟩
  · intro hge
    refine isInfinite_iff.2 (Nat.le_antisymm hrank (Nat.le_of_not_lt fun hlt => ?_))
    exact absurd (hfinite.1 (isFinite_iff.2 hlt)) (not_lt.2 hge)
  · intro hlt y _
    refine le_of_mul_le_mul_right ?_ units_pos
    rw [abs_value_sub hx]
    refine le_trans ?_ (y.le_abs_value_sub hq)
    by_cases hne : y.rank = x.rank
    · rw [magnitude_eq_of_rank_eq hne]
    · exact (h.abs_sub_le (hfinite.2 hlt) hne).1
  · intro hlt y _ hdist hvalue
    have hne : y.rank ≠ x.rank := fun he => hvalue (h.value_eq_of_rank_eq hx hq he hdist)
    refine (h.abs_sub_le (hfinite.2 hlt) hne).2 ?_
    rw [← abs_value_sub hx, ← hdist]
    exact y.le_abs_value_sub hq

/-! ## The ends of the range -/

/-- What a rational is rounded to is a number. -/
theorem RoundsTo.isNaN_eq (h : RoundsTo q x) : x.isNaN = false := by
  rcases lt_or_ge q overflowBound with hq | hq
  · have hf := h.isFinite hq
    rw [Binary64.isFinite, decide_eq_true_eq] at hf
    simp [isNaN, hf]
  · have hi := h.isInfinite hq
    simp only [Binary64.isInfinite, Bool.and_eq_true, decide_eq_true_eq] at hi
    simp [isNaN, hi.2]

/-- It is infinity from the bound on and nowhere else. -/
theorem RoundsTo.eq_infinity_iff (h : RoundsTo q x) : x = ⟨0x7ff0000000000000⟩ ↔ overflowBound ≤ q := by
  constructor
  · rintro rfl
    refine le_of_not_gt fun hq => ?_
    exact absurd (h.isFinite hq) (by decide)
  · intro hq
    rw [eq_ofRank h.isNegative_eq, isInfinite_iff.1 (h.isInfinite hq)]
    decide

/-- Halfway to the least positive number. -/
theorem one_div_two_pow_eq : (1 : ℚ) / 2 ^ 1075 = 1 / 2 / units := by
  rw [pow_succ (2 : ℚ) 1074, units, div_div, mul_comm]

/-- It is zero up to half of the least positive number and nowhere else. -/
theorem RoundsTo.eq_zero_iff (h : RoundsTo q x) (hq : 0 ≤ q) : x = ⟨0⟩ ↔ q ≤ 1 / 2 ^ 1075 := by
  rw [one_div_two_pow_eq, le_div_iff₀ units_pos]
  constructor
  · rintro rfl
    have hlt : q < overflowBound := lt_of_not_ge fun hge => absurd (h.isInfinite hge) (by decide)
    have hle := mul_le_mul_of_nonneg_right (h.nearest hlt ⟨1⟩ (by decide)) units_pos.le
    rw [abs_value_sub (by decide), abs_value_sub (by decide), (by decide : (⟨0⟩ : Binary64).magnitude = 0),
      (by decide : (⟨1⟩ : Binary64).magnitude = 1), Nat.cast_zero, Nat.cast_one, zero_sub, abs_neg,
      abs_of_nonneg (mul_nonneg hq units_pos.le)] at hle
    rcases le_abs.1 hle with hn | hn <;> linarith
  · intro hle
    have hge : 0 ≤ q * units := mul_nonneg hq units_pos.le
    have hmag : ((⟨0⟩ : Binary64).magnitude : ℚ) = 0 := by rw [(by decide : (⟨0⟩ : Binary64).magnitude = 0), Nat.cast_zero]
    have hbelow : ((⟨0⟩ : Binary64).gapBelow : ℚ) = 1 := by rw [(by decide : (⟨0⟩ : Binary64).gapBelow = 1), Nat.cast_one]
    have habove : ((⟨0⟩ : Binary64).gapAbove : ℚ) = 1 := by rw [(by decide : (⟨0⟩ : Binary64).gapAbove = 1), Nat.cast_one]
    have hnear : Near ⟨0⟩ (q * units) := by
      refine ⟨?_, fun _ => ?_, fun _ => by decide, fun _ _ => by decide⟩
      · rw [hmag, hbelow]
        linarith
      · rw [hmag, habove]
        linarith
    exact h.unique (hnear.roundsTo (by decide) (by decide) hq)

/-! ## The number nearest to a quotient -/

/-- A quotient is rounded to a whole number no further than a half away, and exactly a half only if that is even. -/
theorem roundHalfEven_spec (hd : 0 < d) :
    2 * n ≤ (2 * roundHalfEven n d + 1) * d ∧ 2 * roundHalfEven n d * d ≤ 2 * n + d ∧
      (2 * n = (2 * roundHalfEven n d + 1) * d ∨ 2 * roundHalfEven n d * d = 2 * n + d → Even (roundHalfEven n d)) := by
  have hdiv : d * (n / d) + n % d = n := Nat.div_add_mod n d
  have hmod := Nat.mod_lt n hd
  have hmul : ∀ k, (2 * k + 1) * d = 2 * (d * k) + d ∧ 2 * k * d = 2 * (d * k) := fun k => ⟨by ring, by ring⟩
  rw [(hmul _).1, (hmul _).2, Nat.even_iff]
  unfold roundHalfEven
  split
  · omega
  split
  · rw [Nat.mul_succ]
    omega
  · rcases Nat.mod_two_eq_zero_or_one (n / d) with h0 | h1
    · rw [h0, Nat.add_zero]
      omega
    · rw [h1, Nat.mul_succ]
      omega

theorem roundHalfEven_bounds (n d : Nat) : n / d ≤ roundHalfEven n d ∧ roundHalfEven n d ≤ n / d + 1 := by
  unfold roundHalfEven
  split
  · omega
  split <;> omega

theorem fields_ofRank {e f : Nat} (he : e < 2 ^ 11) (hf : f < 2 ^ 52) :
    (ofRank (e * 2 ^ 52 + f)).exponent = e ∧ (ofRank (e * 2 ^ 52 + f)).fraction = f := by
  have hn : (ofRank (e * 2 ^ 52 + f)).bits.toNat = e * 2 ^ 52 + f := toNat_ofRank (by omega)
  simp only [exponent, fraction, hn, Nat.pow_eq]
  omega

/-- A significand that is shifted up gives a number that has at least the shift's gaps on both sides, but for the least number of an
exponent, whose gap below is only half of it. -/
theorem magnitude_ofRank (hm : m ≤ 2 ^ 53) (hs : s = 0 ∨ 2 ^ 52 ≤ m) (hfinite : s * 2 ^ 52 + m < infinityBits) :
    (ofRank (s * 2 ^ 52 + m)).magnitude = m * 2 ^ s ∧ 2 ^ s ≤ (ofRank (s * 2 ^ 52 + m)).gapAbove ∧
      (2 ^ s ≤ (ofRank (s * 2 ^ 52 + m)).gapBelow ∨ 0 < s ∧ m = 2 ^ 52) := by
  simp only [infinityBits, Nat.pow_eq] at hfinite
  rcases Nat.lt_or_ge m (2 ^ 52) with hlow | hlow
  · obtain rfl : s = 0 := by omega
    obtain ⟨he, hf⟩ := fields_ofRank (e := 0) (by decide) hlow
    rw [Nat.zero_mul, Nat.zero_add] at he hf ⊢
    simp [magnitude, significand, gapAbove, gapBelow, shift, he, hf]
  rcases Nat.lt_or_eq_of_le hm with hhigh | rfl
  · obtain ⟨he, hf⟩ := fields_ofRank (e := s + 1) (f := m - 2 ^ 52) (by omega) (by omega)
    have hn : s * 2 ^ 52 + m = (s + 1) * 2 ^ 52 + (m - 2 ^ 52) := by omega
    have hsig : 2 ^ 52 + (m - 2 ^ 52) = m := by omega
    rw [hn]
    refine ⟨?_, ?_, ?_⟩
    · rw [← le_magnitude_of_pos (by omega), hf, hsig, shift, he, Nat.add_sub_cancel]
    · rw [gapAbove, shift, he, Nat.add_sub_cancel]
    · rw [gapBelow, shift, he, hf, Nat.add_sub_cancel]
      split
      · omega
      · exact Or.inl (Nat.le_refl _)
  · -- the significand carries into the exponent
    obtain ⟨he, hf⟩ := fields_ofRank (e := s + 2) (f := 0) (by omega) (by decide)
    have hn : s * 2 ^ 52 + 2 ^ 53 = (s + 2) * 2 ^ 52 + 0 := by omega
    rw [hn]
    refine ⟨?_, ?_, ?_⟩
    · rw [← le_magnitude_of_pos (by omega), hf, shift, he, Nat.add_zero, Nat.add_one_sub_one]
      ring
    · rw [gapAbove, shift, he]
      exact Nat.pow_le_pow_right (by decide) (by omega)
    · rw [gapBelow, shift, he, hf, if_pos ⟨rfl, by omega⟩]
      exact Or.inl (Nat.le_refl _)

theorem ofShifted_eq (m s : Nat) : ofShifted m s = ofRank (min (s * 2 ^ 52 + m) infinityBits) := rfl

theorem rank_ofShifted (m s : Nat) : (ofShifted m s).rank = min (s * 2 ^ 52 + m) infinityBits :=
  rank_ofRank (Nat.lt_of_le_of_lt (Nat.min_le_right _ _) (by decide))

theorem isNegative_ofShifted (m s : Nat) : (ofShifted m s).isNegative = false :=
  isNegative_ofRank (Nat.lt_of_le_of_lt (Nat.min_le_right _ _) (by decide))

/-- A significand that is shifted up attracts what is no further from it than half of the shift, and exactly half only if it is even.
That is more than the least number of an exponent attracts from below, so what is below that number is not to be shifted as far. -/
theorem near_ofShifted (hm : m ≤ 2 ^ 53) (hs : s = 0 ∨ 2 ^ 52 ≤ m) (hleast : 0 < s → 2 ^ 52 * 2 ^ s ≤ r)
    (hge : (m : ℚ) * 2 ^ s - 2 ^ s / 2 ≤ r) (hle : r ≤ m * 2 ^ s + 2 ^ s / 2)
    (heven : r = m * 2 ^ s - 2 ^ s / 2 ∨ r = m * 2 ^ s + 2 ^ s / 2 → Even m) : Near (ofShifted m s) r := by
  rw [ofShifted_eq]
  rcases Nat.lt_or_ge (s * 2 ^ 52 + m) infinityBits with hfinite | hover
  · rw [Nat.min_eq_left hfinite.le]
    obtain ⟨hmag, habove, hbelow⟩ := magnitude_ofRank hm hs hfinite
    have hparity : Even m → Even (ofRank (s * 2 ^ 52 + m)).significand := by
      rw [even_significand_iff, rank_ofRank (Nat.lt_trans hfinite (by decide)), Nat.even_iff, Nat.even_iff]
      omega
    generalize ofRank (s * 2 ^ 52 + m) = x at *
    have hmag' : (x.magnitude : ℚ) = m * 2 ^ s := by rw [hmag, Nat.cast_mul, Nat.cast_pow, Nat.cast_ofNat]
    have habove' : (2 : ℚ) ^ s ≤ x.gapAbove := by exact_mod_cast habove
    have hbelow' : (2 : ℚ) ^ s ≤ x.gapBelow ∨ (m : ℚ) * 2 ^ s ≤ r := by
      rcases hbelow with h | ⟨hpos, rfl⟩
      · exact Or.inl (by exact_mod_cast h)
      · exact Or.inr (by exact_mod_cast hleast hpos)
    have hpos : (0 : ℚ) < x.gapBelow := Nat.cast_pos.2 x.gapBelow_pos
    refine ⟨?_, fun _ => ?_, fun h => hparity (heven (Or.inl ?_)), fun _ h => hparity (heven (Or.inr ?_))⟩
    · rcases hbelow' with hb | hb <;> linarith
    · linarith
    · rcases hbelow' with hb | hb <;> linarith
    · linarith
  · rw [Nat.min_eq_right hover]
    have hinf : (ofRank infinityBits).isInfinite = true := isInfinite_iff.2 (rank_ofRank (by decide))
    have hnot : ¬ (ofRank infinityBits).isFinite = true := by decide
    refine ⟨?_, fun h => absurd h hnot, fun _ => by decide, fun h => absurd h hnot⟩
    rw [magnitude_sub_of_isInfinite hinf, overflowBound_mul_units]
    simp only [infinityBits, Nat.pow_eq] at hover
    rcases Nat.lt_or_ge 2045 s with hlt | hge
    · have hpow : (2 : ℚ) ^ 2045 ≤ 2 ^ (s - 1) := pow_le_pow_right₀ one_le_two (by omega)
      have hshift : (2 : ℚ) ^ s = 2 ^ (s - 1) * 2 := by rw [← pow_succ, Nat.sub_add_cancel (by omega)]
      have hr := hleast (by omega)
      have hpos : (0 : ℚ) < 2 ^ 2045 := pow_pos two_pos 2045
      rw [hshift] at hr
      generalize (2 : ℚ) ^ 2045 = v at *
      linarith
    · obtain rfl : s = 2045 := by omega
      obtain rfl : m = 2 ^ 53 := by omega
      rwa [Nat.cast_pow, Nat.cast_ofNat] at hge

/-- The shift of a quotient leaves it less than `2 ^ 53`, and no less than `2 ^ 52` if it is not zero. -/
theorem shiftFor_bounds (n : Nat) (hd : 0 < d) :
    n < 2 ^ 53 * (d * 2 ^ shiftFor n d) ∧ (0 < shiftFor n d → 2 ^ 52 * (d * 2 ^ shiftFor n d) ≤ n) := by
  have hlt : n / d < 2 ^ (shiftFor n d + 53) := by
    refine Nat.lt_log2_self.trans_le (Nat.pow_le_pow_right (by decide) ?_)
    rw [shiftFor]
    omega
  refine ⟨?_, fun hpos => ?_⟩
  · rw [Nat.div_lt_iff_lt_mul hd] at hlt
    refine hlt.trans_eq ?_
    ring
  · have hlog : Nat.log2 (n / d) = shiftFor n d + 52 := by
      rw [shiftFor] at hpos ⊢
      omega
    have hne : n / d ≠ 0 := by
      intro h0
      rw [h0] at hlog
      simp at hlog
    have hle := Nat.log2_self_le hne
    rw [hlog, Nat.le_div_iff_mul_le hd] at hle
    refine le_trans (le_of_eq ?_) hle
    ring

/-- A quotient, in units, is attracted by the significand that it is rounded to at its shift. -/
theorem near_roundHalfEven (n : Nat) (hd : 0 < d) :
    Near (ofShifted (roundHalfEven n (d * Nat.pow 2 (shiftFor n d))) (shiftFor n d)) (n / d) := by
  rw [Nat.pow_eq]
  obtain ⟨hlt, hleast⟩ := shiftFor_bounds n hd
  generalize shiftFor n d = s at *
  have hD : 0 < d * 2 ^ s := Nat.mul_pos hd (Nat.two_pow_pos s)
  obtain ⟨hhigh, hlow, heven⟩ := roundHalfEven_spec (n := n) hD
  obtain ⟨hfloor, hceil⟩ := roundHalfEven_bounds n (d * 2 ^ s)
  generalize roundHalfEven n (d * 2 ^ s) = m at *
  have hm : m ≤ 2 ^ 53 := hceil.trans ((Nat.div_lt_iff_lt_mul hD).2 hlt)
  have hs : s = 0 ∨ 2 ^ 52 ≤ m := by
    refine (Nat.eq_zero_or_pos s).imp_right fun hpos => ?_
    exact ((Nat.le_div_iff_mul_le hD).2 (hleast hpos)).trans hfloor
  have hdq : (0 : ℚ) < d := Nat.cast_pos.2 hd
  have hhigh' : 2 * (n : ℚ) ≤ (2 * m + 1) * (d * 2 ^ s) := by exact_mod_cast hhigh
  have hlow' : 2 * (m : ℚ) * (d * 2 ^ s) ≤ 2 * n + d * 2 ^ s := by exact_mod_cast hlow
  refine near_ofShifted hm hs ?_ ?_ ?_ ?_
  · intro hpos
    rw [le_div_iff₀ hdq]
    have hle : (2 : ℚ) ^ 52 * (d * 2 ^ s) ≤ n := by exact_mod_cast hleast hpos
    linarith
  · rw [le_div_iff₀ hdq]
    linarith
  · rw [div_le_iff₀ hdq]
    linarith
  · rintro (h | h)
    · refine heven (Or.inr ?_)
      rw [div_eq_iff hdq.ne'] at h
      have he : 2 * (m : ℚ) * (d * 2 ^ s) = 2 * n + d * 2 ^ s := by
        rw [h]
        ring
      exact_mod_cast he
    · refine heven (Or.inl ?_)
      rw [div_eq_iff hdq.ne'] at h
      have he : 2 * (n : ℚ) = (2 * m + 1) * (d * 2 ^ s) := by
        rw [h]
        ring
      exact_mod_cast he

/-- The number nearest to a quotient attracts the quotient. -/
theorem near_nearest (n : Nat) (hd : 0 < d) : Near (nearest n d) (n / d * units) := by
  have hcast : ∀ k, ((n * Nat.pow 2 k : Nat) : ℚ) = n * 2 ^ k := by
    intro k
    rw [Nat.pow_eq, Nat.cast_mul, Nat.cast_pow, Nat.cast_ofNat]
  rw [units, div_mul_eq_mul_div, nearest]
  generalize 1074 = k
  rw [← hcast]
  exact near_roundHalfEven (n * Nat.pow 2 k) hd

/-- A quotient is rounded to the number nearest to it. -/
theorem roundsTo_nearest (n : Nat) (hd : 0 < d) : RoundsTo (n / d) (nearest n d) :=
  (near_nearest n hd).roundsTo (isNegative_ofShifted _ _) ((rank_ofShifted _ _).trans_le (Nat.min_le_right _ _))
    (div_nonneg (Nat.cast_nonneg _) (Nat.cast_nonneg _))

end Binary64

end Loxeme
