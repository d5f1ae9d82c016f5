/-!
# White space

Which characters are white space, and how it is trimmed off both ends of a text. Trimming works on lists of
characters and for any set of characters (`trim`), since values of settings files also lose their quotes that way;
`strip` is the common case of white space on strings.
-/

namespace BucketClient.Text

/-- White space: the ASCII blanks and separators, and the blank characters of Unicode. -/
def isBlank (c : Char) : Bool :=
  let n := c.toNat
  (0x09 ≤ n && n ≤ 0x0d) || (0x1c ≤ n && n ≤ 0x20) || n == 0x85 || n == 0xa0 || n == 0x1680 ||
    (0x2000 ≤ n && n ≤ 0x200a) || n == 0x2028 || n == 0x2029 || n == 0x202f || n == 0x205f || n == 0x3000

/-- A text without the characters of a set at its two ends. -/
def trim (p : Char → Bool) (cs : List Char) : List Char :=
  ((cs.dropWhile p).reverse.dropWhile p).reverse

/-- A string without white space at its two ends. -/
def strip (s : String) : String :=
  String.ofList (trim isBlank s.toList)

end BucketClient.Text
