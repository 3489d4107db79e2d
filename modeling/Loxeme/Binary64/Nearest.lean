import Loxeme.Binary64.Basic
import Loxeme.Decimal

/-!
# The nearest floating-point number

`nearest n d` is the number nearest to `n / d`, and of two equally near ones the one with the even significand. Halfway
to the number that would follow the greatest finite one, and beyond, it is infinity.
-/

namespace Loxeme

/-- The whole number nearest to `n / d`; a half goes to the even neighbour. -/
def roundHalfEven (n d : Nat) : Nat :=
  if 2 * (n % d) < d then n / d
  else if d < 2 * (n % d) then n / d + 1
  else n / d + n / d % 2

namespace Binary64

/-- The bits of the positive infinity. -/
def infinityBits : Nat := 2047 * Nat.pow 2 52

/-- The non-negative number whose significand is `m` when shifted up by `s` places, or infinity when that is too great. A
significand of `2 ^ 53` carries into the exponent, which is what the number is then. -/
def ofShifted (m s : Nat) : Binary64 := ⟨UInt64.ofNat (min (s * Nat.pow 2 52 + m) infinityBits)⟩

/-- The number of places that a number of magnitude about `n / d`, in units of `2 ^ -1074`, is shifted up by: as many as
leave fifty-three bits in front of the point, and none for a number that has no more than those. -/
def shiftFor (n d : Nat) : Nat := Nat.log2 (n / d) - 52

/-- The number nearest to `n / d`. -/
def nearest (n d : Nat) : Binary64 :=
  let units := n * Nat.pow 2 1074
  let s := shiftFor units d
  ofShifted (roundHalfEven units (d * Nat.pow 2 s)) s

end Binary64

/-- The floating-point number nearest to a decimal number. -/
def Decimal.toBinary64 (d : Decimal) : Binary64 := Binary64.nearest d.coefficient (Nat.pow 10 d.places)

example : (Decimal.mk 15 1).toBinary64 = ⟨0x3ff8000000000000⟩ := by decide +kernel

/-- Halfway between two numbers the even significand is taken. -/
example : (Decimal.mk 9007199254740993 0).toBinary64 = (Decimal.mk 9007199254740992 0).toBinary64 := by
  decide +kernel

/-- Too great a number is read as infinity. -/
example : (Decimal.mk (10 ^ 309) 0).toBinary64.isInfinite := by decide +kernel

end Loxeme
