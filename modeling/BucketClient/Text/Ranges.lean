/-!
# Sets of characters as ranges

A property of characters given by the ranges of code points that have it.
-/

namespace BucketClient.Text

/-- Whether the code point of a character lies in one of the ranges, ends included. -/
def inRanges (ranges : List (Nat × Nat)) (c : Char) : Bool :=
  ranges.any fun (first, last) => first ≤ c.toNat && c.toNat ≤ last

end BucketClient.Text
