import Loxeme.Binary64.Basic
import Loxeme.Decimal

/-!
# The shortest decimal for a floating-point number

The decimals that are nearer to a floating-point number than to any other lie between the two points halfway to its
neighbours; the points themselves belong to it when its significand is even. Among the multiples of a power of ten the
two around the number are the ones to try, and the greatest power of ten that has one of them between the points gives
the decimal with the fewest digits. If both are, the nearer is taken, and the upper one if neither is nearer.

Every number is a whole multiple of `10 ^ -1074`. A quarter of that is the unit here, in which the points halfway are
whole numbers too.
-/

namespace Loxeme

/-- The decimals that read back as a number, in units of `10 ^ -1074 / 4`. -/
structure Cell where
  /-- The number itself. -/
  value : Nat
  /-- The point halfway to the number below. -/
  low : Nat
  /-- The point halfway to the number above. -/
  high : Nat
  /-- Whether the two points belong to the cell. -/
  closed : Bool

namespace Cell

/-- Whether a decimal lies in the cell. -/
def contains (c : Cell) (n : Nat) : Bool :=
  if c.closed then c.low ≤ n && n ≤ c.high else c.low < n && n < c.high

/-- Of the two multiples of `10 ^ g` around the number, the one to take: the one in the cell or, of two, the nearer. -/
def multiple? (c : Cell) (g : Nat) : Option Nat :=
  let step := 4 * Nat.pow 10 g
  let below := c.value / step
  let hitsBelow := c.contains (below * step)
  let hitsAbove := c.contains ((below + 1) * step)
  if hitsAbove && (!hitsBelow || step ≤ 2 * (c.value % step)) then some (below + 1)
  else if hitsBelow then some below
  else none

/-- The decimal with the fewest digits, from the powers of ten up to `10 ^ g`, the greatest first. The number itself is
the last resort. -/
def shortestUpTo (c : Cell) : Nat → Decimal
  | 0 => ⟨c.value / 4, 1074⟩
  | g + 1 =>
    match c.multiple? (g + 1) with
    | some k => ⟨k * Nat.pow 10 (g + 1 - 1074), 1074 - (g + 1)⟩
    | none => c.shortestUpTo g

/-- The decimal of the cell with the fewest digits. No power of ten beyond the start of the search is in the cell. -/
def shortest (c : Cell) : Decimal := c.shortestUpTo (Nat.log2 c.high / 3 + 1)

end Cell

namespace Binary64

/-- The number of units of `10 ^ -1074` in `2 ^ -1074`. -/
def fives : Nat := Nat.pow 5 1074

/-- The cell of a finite number other than zero. The number below a power of two is only half as far away as the number
above it, unless both are among the least numbers, which are all equally far apart. -/
def cell (x : Binary64) : Cell :=
  let value := 4 * x.magnitude * fives
  let gap := Nat.pow 2 x.shift * fives
  { value
    low := if x.fraction = 0 ∧ 1 < x.exponent then value - gap else value - 2 * gap
    high := value + 2 * gap
    closed := x.significand % 2 = 0 }

/-- The magnitude of a finite number as the decimal with the fewest digits that reads back as it. -/
def toDecimal (x : Binary64) : Decimal := if x.magnitude = 0 then ⟨0, 0⟩ else x.cell.shortest

/-- The text of a number, always in positions and never with an exponent. -/
def display (x : Binary64) : String :=
  if x.isNaN then "NaN"
  else
    let sign := if x.isNegative then "-" else ""
    sign ++ if x.isInfinite then "inf" else String.ofList x.toDecimal.write

end Binary64

example : (Binary64.mk 0x3fb999999999999a).display = "0.1" := by decide +kernel

example : (Binary64.mk 0x8000000000000000).display = "-0" := by decide +kernel

/-- The least positive number has one digit. -/
example : (Binary64.mk 1).toDecimal = ⟨5, 324⟩ := by decide +kernel

/-- Of two decimals of the same length and equally near, the upper one is taken. -/
example : (Binary64.mk 0x3e60000000000000).display = "0.000000029802322387695313" := by decide +kernel

end Loxeme
