/-!
# Sets of code points

A property of characters is given by a table of closed intervals of code points.

* `inRanges`: membership of a character in such a table.
-/

namespace Accessors.Text

/-- The character lies in one of the intervals, both ends included. -/
def inRanges (ranges : List (Nat × Nat)) (c : Char) : Bool :=
  ranges.any fun r => r.1 ≤ c.toNat && c.toNat ≤ r.2

end Accessors.Text
