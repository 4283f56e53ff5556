/-!
# Sets of code points

A property of characters is kept as a list of closed ranges of code points.
-/

namespace Stencil.Text

/-- A set of code points, as closed ranges. -/
abbrev Ranges := List (Nat × Nat)

namespace Ranges

/-- Whether the code point `c` lies in one of the ranges. -/
def has (rs : Ranges) (c : Nat) : Bool := rs.any fun r => r.1 ≤ c && c ≤ r.2

end Ranges

end Stencil.Text
