/-!
# Ranges of characters

A class of characters is given by the ranges of its code points, both ends of each range
included.
-/

namespace HdlLint.Text

/-- Whether a character is in one of some ranges. -/
def inRanges (ranges : List (Nat × Nat)) (c : Char) : Bool :=
  ranges.any fun r => r.1 ≤ c.toNat && c.toNat ≤ r.2

end HdlLint.Text
