import BucketClient.Failure
import BucketClient.Text.Decimal

/-!
# Layouts

How the text that fills a place in a template is laid out: its least width, the side that it stands at, and its
precision, which is the most characters of a text, the least digits of a whole number, or the digits that a rounded
number shows.
-/

namespace BucketClient.Log

/-- The flags of a place. -/
structure Flags where
  /-- Whether the text stands at the left of its room. -/
  left : Bool := false
  /-- Whether a number that is not negative shows a plus. -/
  plus : Bool := false
  /-- Whether a number that is not negative shows a blank where the sign would be. -/
  blank : Bool := false
  /-- Whether a number fills its room with zeros. -/
  zeros : Bool := false
  /-- Whether a whole number shows the mark of its base, and a rounded one always its point. -/
  marked : Bool := false
  deriving DecidableEq, Repr

/-- How a text is laid out. -/
structure Layout extends Flags where
  width : Nat := 0
  precision : Option Nat := none
  deriving DecidableEq, Repr

/-- The bases that numbers are shown in. -/
inductive Base where
  | octal
  | decimal
  | hexadecimal
  deriving DecidableEq, Repr

namespace Base

/-- The number of digits of a base. -/
def radix : Base → Nat
  | .octal => 8
  | .decimal => 10
  | .hexadecimal => 16

/-- The mark of a base. -/
def mark : Base → List Char
  | .octal => ['0', 'o']
  | .decimal => []
  | .hexadecimal => ['0', 'x']

end Base

namespace Layout

/-- Puts a text into its room. -/
def place (layout : Layout) (text : List Char) : List Char :=
  let gap := List.replicate (layout.width - text.length) ' '
  if layout.left then text ++ gap else gap ++ text

/-- Lays out a text, which the precision may cut. -/
def layText (layout : Layout) (text : List Char) : List Char :=
  layout.place (layout.precision.elim text text.take)

/-- The sign of a number. -/
def sign (layout : Layout) (negative : Bool) : List Char :=
  if negative then ['-'] else if layout.plus then ['+'] else if layout.blank then [' '] else []

/-- Lays out a number by its sign, a mark and the text of its size; zeros stand in front of that text. -/
def laySigned (layout : Layout) (negative : Bool) (mark text : List Char) : List Char :=
  let head := layout.sign negative ++ mark
  let room := if layout.zeros && !layout.left then layout.width - head.length else 0
  layout.place (head ++ text.leftpad room '0')

/-- Lays out a whole number in a base. -/
def layWhole (layout : Layout) (base : Base) (n : Int) : List Char :=
  let digits := (Nat.toDigits base.radix n.natAbs).leftpad (layout.precision.getD 0) '0'
  layout.laySigned (decide (n < 0)) (if layout.marked then base.mark else []) digits

/-- The precision of a rounded number: six unless another one is told. In scientific style the greatest precision that
can be told stands for none. -/
def roundedPrecision (layout : Layout) (style : Text.Decimal.Style) : Nat :=
  let precision := layout.precision.getD 6
  if style = .scientific ∧ precision = Reach.precision.limit then 0 else precision

/-- Lays out a rounded number in a style, by its sign and its size, which is a natural number and its scale. -/
def layRounded (layout : Layout) (style : Text.Decimal.Style) (negative : Bool) (n scale : Nat) : List Char :=
  layout.laySigned negative [] (style.text layout.marked (layout.roundedPrecision style) n scale)

end Layout

end BucketClient.Log
