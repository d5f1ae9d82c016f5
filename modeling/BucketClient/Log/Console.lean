import BucketClient.Log.Record
import BucketClient.Log.Reference
import BucketClient.Text.Lines

/-!
# The console

Two loggers write to the console: that of this library as JSON lines, and that of the wire library as plain lines.
Setting the console up (`Console.setUp`) sets their levels and hands each its form; a logger without a form writes
nothing, and neither do other loggers. A record is written when its level is positive and reaches the level of its
logger; a logger of level zero takes the level of the root, which is that of a warning.
-/

namespace BucketClient.Log

/-- The form of the lines that a logger writes. -/
inductive Form where
  | json
  | plain
  deriving DecidableEq, Repr

/-- The name of a form. -/
def Form.name : Form → String
  | .json => "JsonFormatter"
  | .plain => "Formatter"

/-- A logger: its level, and the form of its lines once it is set up. -/
structure Logger where
  level : Threshold
  form : Option Form := none
  deriving DecidableEq, Repr

/-- The two loggers of the console: that of this library and that of the wire library. -/
structure Console where
  client : Logger := { level := .number 20 }
  wire : Logger := { level := .number 30 }
  deriving DecidableEq, Repr

/-- The name of this library's logger. -/
def clientLogger : String := "objstore"

/-- The name of the wire library's logger. -/
def wireLogger : String := "botocore"

namespace Console

/-- A handler of the console as an entry. -/
def handlerEntry : Entry :=
  .part "StreamHandler" "<StreamHandler (NOTSET)>"

/-- The formatter of a form as an entry. -/
def formEntry (form : Form) : Entry :=
  .part form.name ("<" ++ form.name ++ ">")

/-- The set-up of the console at the moment when the level of this library's logger is about to be set: the forms and
the handlers are finished, and no filters are asked for. -/
def entries : Entry :=
  .table
    [("version", .value (.int 1)),
      ("formatters", .table [("json", formEntry .json), ("plain", formEntry .plain)]),
      ("handlers", .table [("console", handlerEntry), ("botocore_console", handlerEntry)]),
      ("loggers", .table
        [(clientLogger, .table
          [("level", .pending), ("handlers", .value (.list [.text "console"])), ("propagate", .value (.bool false))]),
        (wireLogger, .value (.record
          [("level", .text "WARNING"), ("handlers", .list [.text "botocore_console"]), ("propagate", .bool false)]))]),
      ("filters", .value (.record []))]

/-- Sets the console up at a level; a level that cannot be set leaves it as it was. -/
def setUp (console : Console) (level : Value) : Except Failure Console :=
  match (entries.ofValue level).bind (Entry.level console.client.level) with
  | .ok level => .ok ⟨⟨level, some .json⟩, ⟨.number 30, some .plain⟩⟩
  | .error e => .error (.unconfigurable clientLogger e)

/-- Whether a logger's name is that of another logger or of one below it. -/
def isUnder (name parent : String) : Bool :=
  name == parent || (parent.toList ++ ['.']).isPrefixOf name.toList

/-- The logger that handles the records of a name, if one does. -/
def loggerOf? (console : Console) (name : String) : Option Logger :=
  if isUnder name clientLogger then some console.client
  else if isUnder name wireLogger then some console.wire
  else none

/-- The form that a record of a level is written in by a logger, if it is written. -/
def formFor? (logger : Logger) (level : Int) : Option Form :=
  if 0 < level ∧ logger.level.least ≤ level then logger.form else none

section

variable (report : Failure → String) (console : Console) (r : Record)

/-- What a record writes to the console: nothing, or a text with a line feed at its end. -/
def written : Except Failure String :=
  match (console.loggerOf? r.logger).bind (formFor? · r.level) with
  | some .json => (r.line report).map (· ++ "\n")
  | some .plain => (r.plainLine report).map (· ++ "\n")
  | none => .ok ""

/-- The lines that a record writes to the console. -/
def lines : Except Failure (List String) :=
  (console.written report r).map fun text => (Text.lines text.toList).map String.ofList

end

end Console

end BucketClient.Log
