import BucketClient.Failure

/-!
# Writing JSON

The JSON text of a loose value on one line: a comma and a blank between elements, a colon and a blank after names.
Inside a string only the quotation mark, the backslash and the characters below the blank are escaped, so the text
holds no line break and all other characters stand as they are.

A value has no text if a point in time stands in it, or a whole number with too many digits (`check`).
-/

namespace BucketClient.Json

/-- A character inside a JSON string. -/
def escapedChar (c : Char) : List Char :=
  let n := c.toNat
  if n == 0x22 then ['\x5c', '\x22']
  else if n == 0x5c then ['\x5c', '\x5c']
  else if n == 0x0a then ['\x5c', 'n']
  else if n == 0x0d then ['\x5c', 'r']
  else if n == 0x09 then ['\x5c', 't']
  else if n == 0x08 then ['\x5c', 'b']
  else if n == 0x0c then ['\x5c', 'f']
  else if n < 0x20 then ['\x5c', 'u', '0', '0', Nat.digitChar (n / 16), Nat.digitChar (n % 16)]
  else [c]

/-- A JSON string. -/
def writeText (s : String) : List Char :=
  '\x22' :: s.toList.flatMap escapedChar ++ ['\x22']

/-- A floating point number. Those that are not finite have names, by which they are known outside of JSON only. -/
def writeReal : Floating → List Char
  | .finite d => d.text
  | .infinite false => ['I', 'n', 'f', 'i', 'n', 'i', 't', 'y']
  | .infinite true => ['-', 'I', 'n', 'f', 'i', 'n', 'i', 't', 'y']
  | .undefined => ['N', 'a', 'N']

mutual

/-- Refuses a value that cannot be written, by the first thing in it that cannot. -/
def check : Value → Except Failure Unit
  | .int n => if Text.isWritable n then .ok () else .error (.value (.numeral .unwritable))
  | .time _ _ => .error (.type .notWritten)
  | .list items => checkItems items
  | .record fields => checkFields fields
  | _ => .ok ()

/-- Refuses a list with an element that cannot be written. -/
def checkItems : List Value → Except Failure Unit
  | [] => .ok ()
  | v :: rest => do
    check v
    checkItems rest

/-- Refuses a record with a field that cannot be written. -/
def checkFields : List (String × Value) → Except Failure Unit
  | [] => .ok ()
  | (_, v) :: rest => do
    check v
    checkFields rest

end

mutual

/-- The JSON text of a value that can be written; a point in time would be the string of its plain text. -/
def write : Value → List Char
  | .null => ['n', 'u', 'l', 'l']
  | .bool true => ['t', 'r', 'u', 'e']
  | .bool false => ['f', 'a', 'l', 's', 'e']
  | .int n => (toString n).toList
  | .real x => writeReal x
  | .time plain _ => writeText plain
  | .text s => writeText s
  | .list [] => ['[', ']']
  | .list (v :: rest) => '[' :: write v ++ writeItems rest
  | .record [] => ['\x7b', '\x7d']
  | .record ((name, v) :: rest) => '\x7b' :: writeText name ++ ':' :: ' ' :: write v ++ writeFields rest

/-- The elements of a list after its first one, up to the closing bracket. -/
def writeItems : List Value → List Char
  | [] => [']']
  | v :: rest => ',' :: ' ' :: write v ++ writeItems rest

/-- The fields of a record after its first one, up to the closing brace. -/
def writeFields : List (String × Value) → List Char
  | [] => ['\x7d']
  | (name, v) :: rest => ',' :: ' ' :: writeText name ++ ':' :: ' ' :: write v ++ writeFields rest

end

/-- The JSON text of a value, as a string. -/
def render (v : Value) : Except Failure String := do
  check v
  return String.ofList (write v)

end BucketClient.Json
