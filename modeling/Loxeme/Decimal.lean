/-!
# Decimal numbers

A decimal number is a coefficient and the number of its digits that stand behind the point. It is read from a run of
digits and a run of further digits behind a point, and written with every one of its places.
-/

namespace Loxeme

/-- The number `coefficient / 10 ^ places`. -/
structure Decimal where
  /-- The digits of the number, read without the point. -/
  coefficient : Nat
  /-- How many of the digits stand behind the point. -/
  places : Nat
  deriving DecidableEq, Repr

namespace Decimal

/-- The number with the digits `whole` in front of the point and `fraction` behind it. -/
def ofDigits (whole fraction : List Char) : Decimal :=
  ⟨Nat.ofDigitChars 10 (whole ++ fraction) 0, fraction.length⟩

/-- The digits of a number, filled up with zeros in front to at least `width` of them. -/
def padded (width n : Nat) : List Char :=
  List.replicate (width - (Nat.toDigits 10 n).length) '0' ++ Nat.toDigits 10 n

/-- The digits in front of the point. -/
def whole (d : Decimal) : List Char := Nat.toDigits 10 (d.coefficient / Nat.pow 10 d.places)

/-- The digits behind the point, none when the number has no places. -/
def fraction (d : Decimal) : List Char :=
  if d.places = 0 then [] else padded d.places (d.coefficient % Nat.pow 10 d.places)

/-- The digits in front of the point and, when there are digits behind it, the point and those. -/
def pointed (whole fraction : List Char) : List Char :=
  if fraction = [] then whole else whole ++ '.' :: fraction

/-- The written form of a number. -/
def write (d : Decimal) : List Char := pointed d.whole d.fraction

/-- Filling up with zeros gives exactly the width when the number fits. -/
theorem length_padded {width n : Nat} (hw : 0 < width) (hn : n < Nat.pow 10 width) :
    (padded width n).length = width := by
  have h : (Nat.toDigits 10 n).length ≤ width := (Nat.length_toDigits_le_iff (by omega) hw).2 hn
  simp only [padded, List.length_append, List.length_replicate]
  omega

/-- The fraction of a written number has as many digits as the number has places. -/
theorem length_fraction (d : Decimal) : d.fraction.length = d.places := by
  unfold fraction
  split
  · simp_all
  · exact length_padded (by omega) (Nat.mod_lt _ (Nat.pow_pos (by omega)))

/-- Zeros in front do not change the value of a run of digits. -/
theorem ofDigitChars_padded (width n : Nat) : Nat.ofDigitChars 10 (padded width n) 0 = n := by
  rw [padded, Nat.ofDigitChars_append, Nat.ofDigitChars_replicate_zero]
  simp [Nat.ofDigitChars_toDigits]

/-- A number is what its digits in front of and behind the point read as. -/
theorem ofDigits_whole_fraction (d : Decimal) : ofDigits d.whole d.fraction = d := by
  have hlen := length_fraction d
  have hval : Nat.ofDigitChars 10 (d.whole ++ d.fraction) 0 = d.coefficient := by
    rw [Nat.ofDigitChars_append, whole, Nat.ofDigitChars_toDigits (by omega) (by omega),
      Nat.ofDigitChars_eq_ofDigitChars_zero, hlen]
    unfold fraction
    split
    · next h => simp [h]
    · rw [ofDigitChars_padded]
      exact Nat.div_add_mod _ _
  simp only [ofDigits, hval, hlen]

example : (Decimal.mk 1205 2).write = ['1', '2', '.', '0', '5'] := by decide

end Decimal

end Loxeme
