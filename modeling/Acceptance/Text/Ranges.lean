/-!
# Tables of code points

A set of characters is given by the closed ranges of code points in it.
-/

namespace Acceptance

/-- Whether a character lies in one of the ranges. -/
def inRanges (ranges : List (Nat × Nat)) (c : Char) : Bool :=
  ranges.any fun r => r.1 ≤ c.toNat && c.toNat ≤ r.2

end Acceptance
