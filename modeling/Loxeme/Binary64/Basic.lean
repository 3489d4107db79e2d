/-!
# Binary floating-point numbers of 64 bits

A number is its 64 bits: a sign, eleven bits of exponent and fifty-two bits of fraction. Every finite number is a whole
multiple of the least positive one, `2 ^ -1074`, so magnitudes are natural numbers in that unit and no arithmetic below
has to leave the natural numbers.
-/

namespace Loxeme

/-- A binary floating-point number, given by its bits. -/
structure Binary64 where
  /-- The sign in the highest bit, below it the exponent, below that the fraction. -/
  bits : UInt64
  deriving DecidableEq, Repr

namespace Binary64

/-- Whether the sign bit is set. -/
def isNegative (x : Binary64) : Bool := decide (Nat.pow 2 63 ≤ x.bits.toNat)

/-- The exponent field. -/
def exponent (x : Binary64) : Nat := x.bits.toNat / Nat.pow 2 52 % Nat.pow 2 11

/-- The fraction field. -/
def fraction (x : Binary64) : Nat := x.bits.toNat % Nat.pow 2 52

/-- Whether the bits stand for no number. -/
def isNaN (x : Binary64) : Bool := x.exponent = 2047 && x.fraction ≠ 0

/-- Whether the number is one of the two infinities. -/
def isInfinite (x : Binary64) : Bool := x.exponent = 2047 && x.fraction = 0

/-- Whether the number is neither an infinity nor no number. -/
def isFinite (x : Binary64) : Bool := x.exponent ≠ 2047

/-- The fraction with its hidden leading bit, which only an exponent of zero lacks. -/
def significand (x : Binary64) : Nat := if x.exponent = 0 then x.fraction else Nat.pow 2 52 + x.fraction

/-- The number of binary places that the significand is shifted up by. An exponent of zero means the same shift as an
exponent of one. -/
def shift (x : Binary64) : Nat := x.exponent - 1

/-- The magnitude of a finite number, in units of `2 ^ -1074`. -/
def magnitude (x : Binary64) : Nat := x.significand * Nat.pow 2 x.shift

/-- Equality of numbers: the two zeros are equal, and bits that stand for no number are equal to nothing. -/
def equals (x y : Binary64) : Bool :=
  !x.isNaN && !y.isNaN && (x == y || (x.isFinite && y.isFinite && x.magnitude = 0 && y.magnitude = 0))

end Binary64

end Loxeme
