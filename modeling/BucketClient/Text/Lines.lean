/-!
# Lines

Cutting a text into lines. A line ends at a line-breaking character or at a carriage return with its line feed; a
break at the very end of the text opens no further line.
-/

namespace BucketClient.Text

/-- The characters that end a line. -/
def isLineBreak (c : Char) : Bool :=
  let n := c.toNat
  (0x0a ≤ n && n ≤ 0x0d) || (0x1c ≤ n && n ≤ 0x1e) || n == 0x85 || n == 0x2028 || n == 0x2029

/-- The lines of a text whose first line has begun with `begun`, kept in reverse. -/
def linesFrom (begun : List Char) : List Char → List (List Char)
  | [] => if begun.isEmpty then [] else [begun.reverse]
  | '\r' :: '\n' :: rest => begun.reverse :: linesFrom [] rest
  | c :: rest => if isLineBreak c then begun.reverse :: linesFrom [] rest else linesFrom (c :: begun) rest

/-- The lines of a text, without their breaks. -/
def lines (cs : List Char) : List (List Char) :=
  linesFrom [] cs

end BucketClient.Text
