import BucketClient.Floating

/-!
# Loose values

Values whose shape is not known beforehand: the fields of a service's response, the additions to a log record, the
entries of a stream. A loose value has a truth, and it can be written (`Value.shown`) unless a whole number in it has
too many digits for that (`Value.isWritable`).
-/

namespace BucketClient

/-- A value of any shape; the fields of a record keep their order. -/
inductive Value where
  | null
  | bool (b : Bool)
  | int (n : Int)
  | real (x : Floating)
  /-- A point in time, of which no more is known than its two texts. -/
  | time (plain exact : String)
  | text (s : String)
  | list (items : List Value)
  | record (fields : List (String × Value))
  deriving Inhabited, Repr

namespace Value

/-- The name of a value's shape, as messages give it. -/
def shape : Value → String
  | .null => "NoneType"
  | .bool _ => "bool"
  | .int _ => "int"
  | .real _ => "float"
  | .time _ _ => "datetime.datetime"
  | .text _ => "str"
  | .list _ => "list"
  | .record _ => "dict"

/-- Whether a value counts as true: it is neither null nor false nor zero nor empty. -/
def truth : Value → Bool
  | .null => false
  | .bool b => b
  | .int n => n != 0
  | .real x => !x.isZero
  | .time _ _ => true
  | .text s => !s.isEmpty
  | .list items => !items.isEmpty
  | .record fields => !fields.isEmpty

/-! ## Writing -/

mutual

/-- Whether all whole numbers in a value have few enough digits to be written. -/
def isWritable : Value → Bool
  | .int n => Text.isWritable n
  | .list items => areWritable items
  | .record fields => haveWritable fields
  | _ => true

/-- Whether the whole numbers in the values of a list can be written. -/
def areWritable : List Value → Bool
  | [] => true
  | v :: rest => isWritable v && areWritable rest

/-- Whether the whole numbers in the fields of a record can be written. -/
def haveWritable : List (String × Value) → Bool
  | [] => true
  | (_, v) :: rest => isWritable v && haveWritable rest

end

mutual

/-- What a value is written as if it can be written; texts stand in quotes. -/
def shown : Value → String
  | .null => "None"
  | .bool true => "True"
  | .bool false => "False"
  | .int n => toString n
  | .real x => String.ofList x.text
  | .time _ exact => exact
  | .text s => Text.quoted s
  | .list items => "[" ++ ", ".intercalate (shownItems items) ++ "]"
  | .record fields => "\x7b" ++ ", ".intercalate (shownFields fields) ++ "\x7d"

/-- What the values of a list are written as. -/
def shownItems : List Value → List String
  | [] => []
  | v :: rest => shown v :: shownItems rest

/-- What the fields of a record are written as. -/
def shownFields : List (String × Value) → List String
  | [] => []
  | (name, v) :: rest => (Text.quoted name ++ ": " ++ shown v) :: shownFields rest

end

/-- The value of a field, null when the field is missing. -/
def field (name : String) (fields : List (String × Value)) : Value :=
  (fields.lookup name).getD .null

end Value

end BucketClient
