import BucketClient.Text.Blank
import BucketClient.Text.Digit
import BucketClient.Text.Quoted

/-!
# Numerals

Reading a whole number from text: white space around it, one sign, decimal digits of any script, and single
underscores between digits. Numbers of more than `Numeral.maxDigits` digits are neither read nor written. When a text
starts with too many digits, that is what is wrong with it, whatever comes after them.

Main statements: the text of a number is its decimal digits, behind a hyphen if it is negative
(`toList_toString_int`), and these digits write the number (`numberOf_toDigits`).
-/

namespace BucketClient.Text

/-- Why a text is no numeral, or a number has none. -/
inductive NumeralFault where
  | malformed (text : String)
  | tooLong (digits : Nat)
  | unwritable
  deriving DecidableEq, Repr

/-- The most digits a numeral may have. -/
def Numeral.maxDigits : Nat := 4300

/-- The start of the wording of a fault of length. -/
def Numeral.limitText : String :=
  "Exceeds the limit (" ++ toString Numeral.maxDigits ++ " digits) for integer string conversion"

/-- The advice that ends the wording of a fault of length. -/
def Numeral.limitAdvice : String :=
  "; use sys.set_int_max_str_digits() to increase the limit"

/-- The wording of a fault; a malformed text is shown in quotes, cut at two hundred characters. -/
def NumeralFault.message : NumeralFault → String
  | .malformed text =>
    "invalid literal for int() with base 10: " ++ String.ofList ((quoted text).toList.take 200)
  | .tooLong digits =>
    Numeral.limitText ++ ": value has " ++ toString digits ++ " digits" ++ Numeral.limitAdvice
  | .unwritable => Numeral.limitText ++ Numeral.limitAdvice

/-- White space around a numeral: of the ASCII characters only the five line and tab blanks and the space. -/
def isNumeralBlank (c : Char) : Bool :=
  isBlank c && !(0x1c ≤ c.toNat && c.toNat ≤ 0x1f)

/-- Whether a character may stand in the digits of a numeral. -/
def isNumeralPart (c : Char) : Bool :=
  c == '_' || (digit? c).isSome

/-- Whether each underscore of a numeral stands between two digits, and the last character is a digit; `opened` tells
whether a digit comes just before. -/
def isGrouped (opened : Bool) : List Char → Bool
  | [] => opened
  | c :: rest => if c = '_' then opened && isGrouped false rest else isGrouped true rest

/-- The number written by digits, the highest first. -/
def numberOfDigits (ds : List Nat) : Nat :=
  ds.foldl (fun n d => 10 * n + d) 0

/-- The sign of a numeral and what follows it. -/
def numeralSign : List Char → Int × List Char
  | '+' :: rest => (1, rest)
  | '-' :: rest => (-1, rest)
  | rest => (1, rest)

/-- Reads a numeral. -/
def readNumeral (s : String) : Except NumeralFault Int :=
  let (sign, rest) := numeralSign (trim isNumeralBlank s.toList)
  let part := rest.takeWhile isNumeralPart
  let digits := part.filterMap digit?
  if !isGrouped false part then .error (.malformed s)
  else if Numeral.maxDigits < digits.length then .error (.tooLong digits.length)
  else if part.length < rest.length then .error (.malformed s)
  else .ok (sign * numberOfDigits digits)

/-- Whether a number has few enough digits to be written. -/
def isWritable (n : Int) : Bool :=
  n.natAbs < Nat.pow 10 Numeral.maxDigits

/-- Refuses a number that has too many digits to be written. -/
def checkWritable (n : Int) : Except NumeralFault Unit :=
  if isWritable n then .ok () else .error .unwritable

theorem isDigit_of_mem_toDigits {n : Nat} {c : Char} (h : c ∈ Nat.toDigits 10 n) : c.isDigit = true :=
  Nat.isDigit_of_mem_toDigits (by decide) (by decide) h

theorem isEmpty_toDigits (n : Nat) : (Nat.toDigits 10 n).isEmpty = false :=
  List.isEmpty_eq_false_iff.2 Nat.toDigits_ne_nil

/-- The number that decimal digits write. -/
def numberOf (ds : List Char) : Nat :=
  numberOfDigits (ds.map fun c => c.toNat - 0x30)

theorem numberOf_toDigits (n : Nat) : numberOf (Nat.toDigits 10 n) = n := by
  rw [numberOf, numberOfDigits, List.foldl_map]
  exact Nat.ofDigitChars_toDigits (by decide) (by decide)

theorem numberOf_append (ds es : List Char) :
    numberOf (ds ++ es) = (es.map fun c => c.toNat - 0x30).foldl (fun n d => 10 * n + d) (numberOf ds) := by
  simp only [numberOf, numberOfDigits, List.map_append, List.foldl_append]

/-- Zeros behind digits multiply their number by ten each. -/
theorem numberOf_append_zeros (ds : List Char) (k : Nat) :
    numberOf (ds ++ List.replicate k '0') = numberOf ds * Nat.pow 10 k := by
  induction k with
  | zero => exact (congrArg numberOf (List.append_nil ds)).trans (Nat.mul_one _).symm
  | succ k ih =>
    rw [List.replicate_succ', ← List.append_assoc, numberOf_append, ih]
    show 10 * (numberOf ds * Nat.pow 10 k) + 0 = numberOf ds * (Nat.pow 10 k * 10)
    rw [Nat.add_zero, Nat.mul_comm, Nat.mul_assoc]

/-- Zeros in front of digits make no difference. -/
theorem numberOf_zeros_append (k : Nat) (ds : List Char) : numberOf (List.replicate k '0' ++ ds) = numberOf ds := by
  have hzeros : numberOf (List.replicate k '0') = 0 := by
    have h := numberOf_append_zeros [] k
    rwa [List.nil_append, show numberOf [] = 0 from rfl, Nat.zero_mul] at h
  rw [numberOf_append, hzeros]
  rfl

theorem toList_toString_ofNat (n : Nat) : (toString (n : Int)).toList = Nat.toDigits 10 n := by
  rw [show toString (n : Int) = Nat.repr n from rfl, Nat.toList_repr]

/-- The text of a number is its digits, behind a hyphen if it is negative. -/
theorem toList_toString_int (n : Int) :
    (toString n).toList = (if n < 0 then ['-'] else []) ++ Nat.toDigits 10 n.natAbs := by
  cases n with
  | ofNat m => exact toList_toString_ofNat m
  | negSucc m =>
    rw [show toString (Int.negSucc m) = "-" ++ Nat.repr (m + 1) from rfl, String.toList_append, Nat.toList_repr,
      if_pos (Int.negSucc_lt_zero m)]
    rfl

end BucketClient.Text
