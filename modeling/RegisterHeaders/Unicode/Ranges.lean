/-!
# Sets of characters as ranges

A character property is stored as the list of the ranges of code points that have it.
-/

namespace RegisterHeaders.Unicode

/-- Ranges of code points, each given by its first and last member. -/
abbrev Ranges := List (Nat × Nat)

/-- Whether code point `n` lies in one of the ranges. -/
def Ranges.contain (ranges : Ranges) (n : Nat) : Bool :=
  ranges.any fun r => r.1 ≤ n && n ≤ r.2

end RegisterHeaders.Unicode
