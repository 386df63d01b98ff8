/-!
Classes of characters given by inclusive ranges of code points. A table lists its ranges in
increasing order, and membership is a search of the table.
-/
namespace ChapterTex.Text

/-- Inclusive ranges of code points, in increasing order. -/
abbrev Ranges := List (Nat × Nat)

namespace Ranges

def contains (ranges : Ranges) (c : Char) : Bool :=
  ranges.any fun r => decide (r.1 ≤ c.toNat) && decide (c.toNat ≤ r.2)

end Ranges
end ChapterTex.Text
