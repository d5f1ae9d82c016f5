import BucketClient.Text.Printable

/-!
# Quoted text

The written form of a text inside quotation marks, used where a message shows a value exactly. The mark is the
apostrophe, or the double quote for a text that has an apostrophe and no double quote. The mark in use and the
backslash are escaped, and so is every character that would not show as itself.
-/

namespace BucketClient.Text

/-- The digits of a number in base 16, at least `width` of them. -/
def hexDigits (width n : Nat) : List Char :=
  let digits := Nat.toDigits 16 n
  List.replicate (width - digits.length) '0' ++ digits

/-- A character by its code. -/
def codeEscape (c : Char) : List Char :=
  let n := c.toNat
  if n < 0x100 then '\x5c' :: 'x' :: hexDigits 2 n
  else if n < 0x10000 then '\x5c' :: 'u' :: hexDigits 4 n
  else '\x5c' :: 'U' :: hexDigits 8 n

/-- A character as it stands between the marks `mark`. -/
def quotedChar (mark c : Char) : List Char :=
  let n := c.toNat
  if c == mark || n == 0x5c then ['\x5c', c]
  else if n == 0x0a then ['\x5c', 'n']
  else if n == 0x0d then ['\x5c', 'r']
  else if n == 0x09 then ['\x5c', 't']
  else if isPrintable c then [c]
  else codeEscape c

/-- The mark that a text is quoted with. -/
def quotationMark (cs : List Char) : Char :=
  if cs.contains '\x27' && !cs.contains '\x22' then '\x22' else '\x27'

/-- A string in quotation marks. -/
def quoted (s : String) : String :=
  let mark := quotationMark s.toList
  String.ofList (mark :: s.toList.flatMap (quotedChar mark) ++ [mark])

/-- A text with the characters outside ASCII by their codes. -/
def asciiOnly (cs : List Char) : List Char :=
  cs.flatMap fun c => if c.toNat < 0x80 then [c] else codeEscape c

end BucketClient.Text
