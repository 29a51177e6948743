/-
**Ranges of code points.**

* `Text.inRanges` — membership in a list of ranges.
-/

namespace LogProbe.Text

/-- Whether a character stands in one of the ranges, ends included. -/
def inRanges (ranges : List (Nat × Nat)) (c : Char) : Bool :=
  let code := c.toNat
  ranges.any fun range => range.1 ≤ code && code ≤ range.2

end LogProbe.Text
