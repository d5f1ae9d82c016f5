import BucketClient.Log.Layout

/-!
# What places show

The letter of a place says what it shows of an argument (`Content.ofArgument?`): `s` its plain text, `r` its exact text,
`a` the same in ASCII, `c` a character, `d`, `i`, `u`, `o`, `x` and `X` a whole number, and `e`, `f`, `g` and their
capitals a rounded number. A content is then laid out (`Content.lay`), unless it is told more digits than a whole number
may have, has more of them than can be written in the decimal base, or is told a longer text than can be held.
-/

namespace BucketClient.Log

/-- What a place shows. -/
inductive Content where
  | text (cs : List Char)
  | character (c : Char)
  | whole (base : Base) (n : Int)
  /-- A rounded number by its sign and its size, which is a natural number and its scale. -/
  | rounded (style : Text.Decimal.Style) (negative : Bool) (n scale : Nat)
  /-- The name of a number that has no digits. -/
  | named (negative : Bool) (name : List Char)

/-- The number of a whole number or a Boolean. -/
def wholeNumber? : Value → Option Int
  | .int n => some n
  | .bool b => some (if b then 1 else 0)
  | _ => none

namespace Content

/-! ## Reading arguments -/

/-- A whole number that a letter shows in a base; in the decimal base that is also what stands before the point. -/
def ofWhole (letter : Char) (base : Base) (arg : Value) : Except Failure Content :=
  match base, arg with
  | .decimal, .real x => (Value.real x).toInt.map (.whole .decimal)
  | base, arg => match wholeNumber? arg with
    | none => .error (.type (if base = .decimal then .notNumeric letter arg.shape else .notWhole letter arg.shape))
    | some n => .ok (.whole base n)

/-- A number that is rounded and shown in a style. -/
def ofRounded (style : Text.Decimal.Style) (arg : Value) : Except Failure Content :=
  match arg with
  | .real (.finite d) => .ok (.rounded style d.negative d.nearest.1 d.nearest.2)
  | .real (.infinite negative) => .ok (.named negative ['i', 'n', 'f'])
  | .real .undefined => .ok (.named false ['n', 'a', 'n'])
  | arg => match wholeNumber? arg with
    | none => .error (.type (.notReal arg.shape))
    | some n =>
      let (size, scale) := Text.Decimal.nearest n.natAbs 1
      if size < Text.Decimal.overflow * Nat.pow 10 scale then .ok (.rounded style (decide (n < 0)) size scale)
      else .error (.overflow .real)

/-- A character: one of a given code, or the only one of a text. -/
def ofCharacter (arg : Value) : Except Failure Content :=
  match arg with
  | .text s => match s.toList with
    | [c] => .ok (.character c)
    | _ => .error (.type .notCharacter)
  | arg => match wholeNumber? arg with
    | none => .error (.type .notCharacter)
    | some n =>
      if 0 ≤ n ∧ n < 0x110000 then .ok (.character (Char.ofNat n.toNat)) else .error (.overflow .character)

/-- What a letter shows of an argument, if it is the letter of a content. -/
def ofArgument? (letter : Char) (arg : Value) : Option (Except Failure Content) :=
  match letter with
  | 's' => some (arg.plainText.map fun s => .text s.toList)
  | 'r' => some (arg.exactText.map fun s => .text s.toList)
  | 'a' => some (arg.exactText.map fun s => .text (Text.asciiOnly s.toList))
  | 'c' => some (ofCharacter arg)
  | 'd' | 'i' | 'u' => some (ofWhole letter .decimal arg)
  | 'o' => some (ofWhole letter .octal arg)
  | 'x' | 'X' => some (ofWhole letter .hexadecimal arg)
  | 'e' | 'E' => some (ofRounded .scientific arg)
  | 'f' | 'F' => some (ofRounded .fixed arg)
  | 'g' | 'G' => some (ofRounded .general arg)
  | _ => none

/-! ## Laying out -/

/-- The most digits that a whole number can be told to show. -/
def mostDigits : Nat := Nat.pow 2 31 - 4

/-- The longest text that can be asked for. -/
def longestText : Nat := Nat.pow 2 28

/-- The digits that a layout asks for. -/
def room (layout : Layout) : Content → Nat
  | .text _ | .character _ | .named _ _ => 0
  | .whole _ _ => layout.precision.getD 0
  | .rounded style _ _ _ => style.room layout.marked (layout.roundedPrecision style)

/-- A content laid out. -/
def shown (layout : Layout) : Content → List Char
  | .text cs => layout.layText cs
  | .character c => layout.place [c]
  | .whole base n => layout.layWhole base n
  | .rounded style negative n scale => layout.layRounded style negative n scale
  | .named negative name => layout.laySigned negative [] name

/-- Whether a layout asks for more digits than a content may have. -/
def isTooPrecise (layout : Layout) : Content → Bool
  | .whole _ _ => mostDigits < layout.precision.getD 0
  | _ => false

/-- Whether a content is a whole number that has too many digits for the decimal base. -/
def isUnwritable : Content → Bool
  | .whole .decimal n => !Text.isWritable n
  | _ => false

/-- Lays a content out, unless the layout asks for too much or the content has too much. -/
def lay (layout : Layout) (content : Content) : Except Failure (List Char) :=
  if content.isTooPrecise layout then .error (.overflow .precision)
  else if content.isUnwritable then .error (.value (.numeral .unwritable))
  else if longestText < max layout.width (content.room layout) then .error .outOfMemory
  else .ok (content.shown layout)

end Content

end BucketClient.Log
