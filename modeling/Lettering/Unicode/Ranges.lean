/-!
# Sets of code points as ranges

A set of code points is stored as the list of its inclusive ranges, ascending and apart from one
another; membership is a walk along the list.
-/

namespace Lettering.Unicode

/-- Inclusive ranges of code points. -/
abbrev Ranges := List (Nat × Nat)

/-- Whether a code point lies in one of the ranges. -/
def Ranges.covers (rs : Ranges) (c : Nat) : Bool :=
  rs.any fun r => r.1 ≤ c && c ≤ r.2

end Lettering.Unicode
