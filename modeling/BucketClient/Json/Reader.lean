import BucketClient.Dictionary
import BucketClient.Value

/-!
# Reading JSON

Reading a loose value back from JSON text, with blanks allowed between the parts. The fields of a record keep the
order in which their names first occur, and a repeated name takes the last value. A number without a point and without
a power of ten is whole.

The readers take the number of steps that they may make. The length of the text is enough (`read?`), since every step
uses up a character.
-/

namespace BucketClient.Json

/-- A blank between the parts of a JSON text. -/
def isSpace (c : Char) : Bool :=
  c == ' ' || c == '\n' || c == '\r' || c == '\t'

/-- A text without leading blanks. -/
def skipSpace (cs : List Char) : List Char :=
  cs.dropWhile isSpace

/-- The value of a digit in base 16. -/
def hexDigit? (c : Char) : Option Nat :=
  let n := c.toNat
  if 0x30 ≤ n && n ≤ 0x39 then some (n - 0x30)
  else if 0x61 ≤ n && n ≤ 0x66 then some (n - 0x57)
  else if 0x41 ≤ n && n ≤ 0x46 then some (n - 0x37)
  else none

/-- The number written by four digits in base 16, and what follows them. -/
def readUnit? : List Char → Option (Nat × List Char)
  | a :: b :: c :: d :: rest => do
    let a ← hexDigit? a
    let b ← hexDigit? b
    let c ← hexDigit? c
    let d ← hexDigit? d
    return (((a * 16 + b) * 16 + c) * 16 + d, rest)
  | _ => none

/-- The low half of a surrogate pair, escaped, and what follows it. -/
def readLowHalf? : List Char → Option (Nat × List Char)
  | '\x5c' :: 'u' :: rest => do
    let (low, rest) ← readUnit? rest
    if 0xdc00 ≤ low && low ≤ 0xdfff then some (low, rest) else none
  | _ => none

/-- The character of an escaped unit, and what follows it; a lone surrogate becomes the replacement character. -/
def joinUnit (unit : Nat) (rest : List Char) : Char × List Char :=
  if 0xd800 ≤ unit && unit ≤ 0xdbff then
    match readLowHalf? rest with
    | some (low, rest) => (Char.ofNat (0x10000 + (unit - 0xd800) * 0x400 + (low - 0xdc00)), rest)
    | none => (Char.ofNat 0xfffd, rest)
  else if 0xdc00 ≤ unit && unit ≤ 0xdfff then (Char.ofNat 0xfffd, rest)
  else (Char.ofNat unit, rest)

/-- The character after a backslash, and what follows it. -/
def readEscape? : List Char → Option (Char × List Char)
  | 'u' :: rest => (readUnit? rest).map fun (unit, rest) => joinUnit unit rest
  | 'n' :: rest => some ('\n', rest)
  | 'r' :: rest => some ('\r', rest)
  | 't' :: rest => some ('\t', rest)
  | 'b' :: rest => some ('\x08', rest)
  | 'f' :: rest => some ('\x0c', rest)
  | '\x22' :: rest => some ('\x22', rest)
  | '\x5c' :: rest => some ('\x5c', rest)
  | '/' :: rest => some ('/', rest)
  | _ => none

/-- The characters of a string up to its closing mark, and what follows it. -/
def readChars? : Nat → List Char → Option (List Char × List Char)
  | _, '\x22' :: rest => some ([], rest)
  | steps + 1, '\x5c' :: rest => do
    let (c, rest) ← readEscape? rest
    let (cs, rest) ← readChars? steps rest
    return (c :: cs, rest)
  | steps + 1, c :: rest => do
    let (cs, rest) ← readChars? steps rest
    return (c :: cs, rest)
  | _, _ => none

/-- A string, and what follows it. -/
def readText? (steps : Nat) : List Char → Option (String × List Char)
  | '\x22' :: rest => (readChars? steps rest).map fun (cs, rest) => (String.ofList cs, rest)
  | _ => none

/-- The digits at the start of a text, and what follows them. -/
def readDigits (cs : List Char) : List Char × List Char :=
  (cs.takeWhile Char.isDigit, cs.dropWhile Char.isDigit)

/-- The digits behind a point, and what follows them. A point without a digit behind it is not read. -/
def readFraction : List Char → List Char × List Char
  | '.' :: rest => match readDigits rest with
    | ([], _) => ([], '.' :: rest)
    | (d :: ds, rest) => (d :: ds, rest)
  | cs => ([], cs)

/-- The sign of a power of ten, and what follows it. -/
def readSign : List Char → Bool × List Char
  | '-' :: rest => (true, rest)
  | '+' :: rest => (false, rest)
  | cs => (false, cs)

/-- The power of ten behind its letter, and what follows it. A letter without a power behind it is not read. -/
def readPower : List Char → Option Int × List Char
  | [] => (none, [])
  | c :: rest =>
    if c = 'e' ∨ c = 'E' then
      let (negative, digits) := readSign rest
      match readDigits digits with
      | ([], _) => (none, c :: rest)
      | (d :: ds, rest) =>
        let n : Int := Text.numberOf (d :: ds)
        (some (if negative then -n else n), rest)
    else (none, c :: rest)

/-- The size of a number behind its sign, and what follows it. -/
def readSize? (negative : Bool) (cs : List Char) : Option (Value × List Char) :=
  let (whole, cs) := readDigits cs
  let (fraction, cs) := readFraction cs
  let (power, cs) := readPower cs
  let n : Int := Text.numberOf whole
  if whole.isEmpty then none
  else if fraction.isEmpty && power.isNone then some (.int (if negative then -n else n), cs)
  else some (.real (.finite (.ofParts negative ⟨whole, fraction, power⟩)), cs)

/-- A number, and what follows it. -/
def readNumber? : List Char → Option (Value × List Char)
  | '-' :: rest => readSize? true rest
  | cs => readSize? false cs

mutual

/-- A value, and what follows it. -/
def readValue? : Nat → List Char → Option (Value × List Char)
  | 0, _ => none
  | steps + 1, cs => match skipSpace cs with
    | 'n' :: 'u' :: 'l' :: 'l' :: rest => some (.null, rest)
    | 't' :: 'r' :: 'u' :: 'e' :: rest => some (.bool true, rest)
    | 'f' :: 'a' :: 'l' :: 's' :: 'e' :: rest => some (.bool false, rest)
    | '\x22' :: rest => (readText? steps ('\x22' :: rest)).map fun (s, rest) => (.text s, rest)
    | '[' :: rest => match skipSpace rest with
      | ']' :: rest => some (.list [], rest)
      | rest => (readItems? steps rest).map fun (items, rest) => (.list items, rest)
    | '\x7b' :: rest => match skipSpace rest with
      | '\x7d' :: rest => some (.record [], rest)
      | rest => (readFields? steps rest).map fun (fields, rest) =>
        (.record (Dictionary.ofList fields).entries, rest)
    | rest => readNumber? rest

/-- The elements of a list up to the closing bracket, and what follows it. -/
def readItems? : Nat → List Char → Option (List Value × List Char)
  | 0, _ => none
  | steps + 1, cs => do
    let (v, rest) ← readValue? steps cs
    match skipSpace rest with
    | ',' :: rest =>
      let (items, rest) ← readItems? steps rest
      return (v :: items, rest)
    | ']' :: rest => return ([v], rest)
    | _ => none

/-- The fields of a record up to the closing brace, and what follows it. -/
def readFields? : Nat → List Char → Option (List (String × Value) × List Char)
  | 0, _ => none
  | steps + 1, cs => do
    let (name, rest) ← readText? steps (skipSpace cs)
    match skipSpace rest with
    | ':' :: rest =>
      let (v, rest) ← readValue? steps rest
      match skipSpace rest with
      | ',' :: rest =>
        let (fields, rest) ← readFields? steps rest
        return ((name, v) :: fields, rest)
      | '\x7d' :: rest => return ([(name, v)], rest)
      | _ => none
    | _ => none

end

/-- The value of a JSON text. -/
def read? (s : String) : Option Value :=
  let cs := s.toList
  match readValue? (cs.length + 1) cs with
  | some (v, rest) => if (skipSpace rest).isEmpty then some v else none
  | none => none

end BucketClient.Json
