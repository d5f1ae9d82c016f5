import BucketClient.Dictionary
import BucketClient.Json.Writer
import BucketClient.Log.Message

/-!
# Log records

What is logged, and the line it is written as. The line is a JSON record with the level, the logger and the message;
the additions of the log record come after them or take their places, and a failure is reported last unless an
addition of that name came before.

How a failure is reported is up to the logging library, which also tells the places in the code where the failure was
raised. So the text of the report comes from outside: `report` stands for it.
-/

namespace BucketClient.Log

/-- The levels that records are logged at. -/
inductive Level where
  | debug
  | info
  | warning
  | error
  | critical
  deriving DecidableEq, Repr

/-- The number of a level. -/
def Level.number : Level → Int
  | .debug => 10
  | .info => 20
  | .warning => 30
  | .error => 40
  | .critical => 50

/-- The name of a level number; a number without a name is shown. -/
def levelName (number : Int) : Except Failure String :=
  if number = 0 then .ok "NOTSET"
  else if number = 10 then .ok "DEBUG"
  else if number = 20 then .ok "INFO"
  else if number = 30 then .ok "WARNING"
  else if number = 40 then .ok "ERROR"
  else if number = 50 then .ok "CRITICAL"
  else (Value.int number).exactText.map ("Level " ++ ·)

/-- Something logged. -/
structure Record where
  logger : String
  level : Int
  template : String
  args : List Value := []
  extra : Option Value := none
  failure : Option Failure := none

namespace Record

/-- The message of a record. -/
def message (r : Record) : Except Failure String :=
  Log.message r.template r.args

/-- The additions of a record; an addition that is no record of fields is passed over. -/
def additions (r : Record) : List (String × Value) :=
  match r.extra with
  | some (.record fields) => fields
  | _ => []

section

variable (report : Failure → String) (r : Record)

/-- The fields of the line of a record with the name of its level and its message. -/
def fields (level message : String) : Dictionary String Value :=
  let plain : Dictionary String Value := .ofList
    [("level", .text level), ("logger", .text r.logger), ("message", .text message)]
  let extended := plain.insertAll r.additions
  match r.failure with
  | some failure => extended.insert "exception" (.text (report failure))
  | none => extended

/-- The line of a record. -/
def line : Except Failure String := do
  let level ← levelName r.level
  let message ← r.message
  Json.render (.record (r.fields report level message).entries)

/-- The line of a record for a reader at a terminal: level, logger and message, and the report on its own lines. -/
def plainLine : Except Failure String := do
  let level ← levelName r.level
  let message ← r.message
  let text := level ++ " " ++ r.logger ++ ": " ++ message
  let reported := r.failure.elim "" report
  return if reported.isEmpty then text else (if text.endsWith "\n" then text else text ++ "\n") ++ reported

end

end Record

end BucketClient.Log
