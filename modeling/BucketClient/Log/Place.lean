import BucketClient.Log.Layout

/-!
# Places in a template

A place starts at a percent sign and ends with the letter that says what it shows. Between the two may stand, in this
order: the name of a field in parentheses, flags, the least width, after a point the precision, and a letter for the
size of a number, which tells nothing here. A width or precision is given by digits, or an asterisk takes it from the
arguments.

Main statement: reading a place leaves no more text than there was (`length_read_le`).
-/

namespace BucketClient.Log

/-- The field that a place asks for. -/
inductive Key where
  | none
  | named (name : String)
  /-- A name whose parenthesis is never closed. -/
  | unclosed
  deriving DecidableEq, Repr

/-- A width or precision: given in the template, or taken from the arguments. -/
inductive Extent where
  | given (n : Nat)
  | argument
  deriving DecidableEq, Repr

/-- A place in a template; it has no letter when the template ends before one. -/
structure Place where
  key : Key := .none
  flags : Flags := {}
  width : Extent := .given 0
  precision : Option Extent := none
  letter : Option Char := none
  deriving DecidableEq, Repr

namespace Place

/-- Reads the name of a field up to the parenthesis that closes it; `depth` others are open, and `name` has been read,
in reverse. -/
def readName (depth : Nat) (name : List Char) : List Char → Key × List Char
  | [] => (.unclosed, [])
  | ')' :: rest =>
    if depth = 0 then (.named (String.ofList name.reverse), rest) else readName (depth - 1) (')' :: name) rest
  | '(' :: rest => readName (depth + 1) ('(' :: name) rest
  | c :: rest => readName depth (c :: name) rest

/-- Reads the field at the start of a text. -/
def readKey : List Char → Key × List Char
  | '(' :: rest => readName 0 [] rest
  | rest => (.none, rest)

/-- Reads the flags at the start of a text. -/
def readFlags (flags : Flags) : List Char → Flags × List Char
  | '-' :: rest => readFlags { flags with left := true } rest
  | '+' :: rest => readFlags { flags with plus := true } rest
  | ' ' :: rest => readFlags { flags with blank := true } rest
  | '0' :: rest => readFlags { flags with zeros := true } rest
  | '#' :: rest => readFlags { flags with marked := true } rest
  | rest => (flags, rest)

/-- Reads the digits at the start of a text behind those of `n`. -/
def readNumber (n : Nat) : List Char → Nat × List Char
  | [] => (n, [])
  | c :: rest => if c.isDigit then readNumber (10 * n + (c.toNat - '0'.toNat)) rest else (n, c :: rest)

/-- Reads the extent at the start of a text; without one it is zero. -/
def readExtent : List Char → Extent × List Char
  | '*' :: rest => (.argument, rest)
  | rest =>
    let (n, rest) := readNumber 0 rest
    (.given n, rest)

/-- Reads the precision at the start of a text. -/
def readPrecision : List Char → Option Extent × List Char
  | '.' :: rest =>
    let (extent, rest) := readExtent rest
    (some extent, rest)
  | rest => (none, rest)

/-- Skips the letter for the size of a number at the start of a text. -/
def skipSize : List Char → List Char
  | 'h' :: rest => rest
  | 'l' :: rest => rest
  | 'L' :: rest => rest
  | rest => rest

/-- Reads the place behind a percent sign. -/
def read (text : List Char) : Place × List Char :=
  let (key, rest) := readKey text
  let (flags, rest) := readFlags {} rest
  let (width, rest) := readExtent rest
  let (precision, rest) := readPrecision rest
  let rest := skipSize rest
  ({ key, flags, width, precision, letter := rest.head? }, rest.tail)

/-! ## What reading leaves -/

theorem length_readName_le (depth : Nat) (name text : List Char) :
    (readName depth name text).2.length ≤ text.length := by
  fun_induction readName depth name text <;> simp_all <;> omega

theorem length_readKey_le (text : List Char) : (readKey text).2.length ≤ text.length := by
  unfold readKey
  split
  · exact Nat.le_succ_of_le (length_readName_le 0 [] _)
  · exact Nat.le_refl _

theorem length_readFlags_le (flags : Flags) (text : List Char) : (readFlags flags text).2.length ≤ text.length := by
  fun_induction readFlags flags text <;> simp_all <;> omega

theorem length_readNumber_le (n : Nat) (text : List Char) : (readNumber n text).2.length ≤ text.length := by
  fun_induction readNumber n text <;> simp_all
  omega

theorem length_readExtent_le (text : List Char) : (readExtent text).2.length ≤ text.length := by
  unfold readExtent
  split
  · exact Nat.le_succ _
  · exact length_readNumber_le 0 _

theorem length_readPrecision_le (text : List Char) : (readPrecision text).2.length ≤ text.length := by
  unfold readPrecision
  split
  · exact Nat.le_succ_of_le (length_readExtent_le _)
  · exact Nat.le_refl _

theorem length_skipSize_le (text : List Char) : (skipSize text).length ≤ text.length := by
  unfold skipSize
  split <;> simp

theorem length_read_le (text : List Char) : (read text).2.length ≤ text.length := by
  simp only [read, List.length_tail]
  have := length_readKey_le text
  have := length_readFlags_le {} (readKey text).2
  have := length_readExtent_le (readFlags {} (readKey text).2).2
  have := length_readPrecision_le (readExtent (readFlags {} (readKey text).2).2).2
  have := length_skipSize_le (readPrecision (readExtent (readFlags {} (readKey text).2).2).2).2
  omega

end Place

end BucketClient.Log
