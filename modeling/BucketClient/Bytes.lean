/-!
# Byte strings

A stretch of a byte string between two positions, as reads with an offset and a length ask for it. Positions are
clamped to the string; a negative position counts from the end.
-/

namespace BucketClient

/-- A position counted from the start, or from the end when negative, clamped to a length. -/
def clampPosition (size : Nat) (position : Int) : Nat :=
  if position < 0 then (size + position).toNat else min position.toNat size

/-- The bytes between two positions; none when the second lies before the first. -/
def slice (data : ByteArray) (first last : Int) : ByteArray :=
  data.extract (clampPosition data.size first) (clampPosition data.size last)

/-- The elements of a list before a position. -/
def takeBefore {α : Type} (items : List α) (last : Int) : List α :=
  items.take (clampPosition items.length last)

end BucketClient
