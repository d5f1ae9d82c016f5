import BucketClient.Failure

/-!
# Levels of loggers

A logger lets a record pass whose level is high enough. What is high enough is given by a number, by a Boolean that
stands for one or zero, or by the name of a level.
-/

namespace BucketClient.Log

/-- The level of a logger, in the shape it was given in: a number, or a Boolean, which stands for one or zero. -/
inductive Threshold where
  | number (n : Int)
  | flag (b : Bool)
  deriving DecidableEq, Repr

namespace Threshold

/-- The level of the root. -/
def root : Int := 30

/-- The number of a threshold. -/
def toInt : Threshold → Int
  | .number n => n
  | .flag b => if b then 1 else 0

/-- A threshold as a value. -/
def toValue : Threshold → Value
  | .number n => .int n
  | .flag b => .bool b

/-- The least level that a threshold lets pass: its number, or the level of the root for zero. -/
def least (t : Threshold) : Int :=
  if t.toInt = 0 then root else t.toInt

end Threshold

/-- The level names with their numbers. -/
def levelNumbers : List (String × Int) :=
  [("CRITICAL", 50), ("FATAL", 50), ("ERROR", 40), ("WARN", 30), ("WARNING", 30), ("INFO", 20), ("DEBUG", 10),
    ("NOTSET", 0)]

/-- The level that a value names: a number, a Boolean, or a level name; null keeps the level as it is. -/
def levelOf (kept : Threshold) : Value → Except Failure Threshold
  | .null => .ok kept
  | .int n => .ok (.number n)
  | .bool b => .ok (.flag b)
  | .text s => match levelNumbers.lookup s with
    | some n => .ok (.number n)
    | none => .error (.value (.unknownLevel s))
  | v => v.exactText >>= fun given => .error (.type (.level given))

end BucketClient.Log
