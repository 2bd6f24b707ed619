/-! # Ranges of characters

A class of characters that no simple rule describes is given as a list of ranges of code points.
-/

namespace Notebook

/-- The code point of the character lies in one of the ranges, ends included. -/
def inRanges (ranges : List (Nat × Nat)) (c : Char) : Bool :=
  ranges.any fun (low, high) => low ≤ c.toNat && c.toNat ≤ high

end Notebook
