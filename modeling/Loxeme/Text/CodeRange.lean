/-!
# Ranges of code points

A property of characters is given as a table of closed ranges, in ascending order and apart from one another.
-/

namespace Loxeme

/-- A closed range of code points. -/
structure CodeRange where
  /-- The least code point of the range. -/
  first : Nat
  /-- The greatest code point of the range. -/
  last : Nat
  deriving DecidableEq, Repr

/-- Whether the range holds the character. -/
def CodeRange.contains (r : CodeRange) (c : Char) : Bool := r.first ≤ c.toNat && c.toNat ≤ r.last

/-- Whether some range of the table holds the character. -/
def covers (table : List CodeRange) (c : Char) : Bool := table.any (·.contains c)

end Loxeme
