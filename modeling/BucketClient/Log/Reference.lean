import BucketClient.Log.Entry
import BucketClient.Log.Level

/-!
# References

A text in a set-up may stand for something else: behind `cfg://` follows the path of an entry of the set-up itself,
and behind `ext://` the name of a constant that a module provides. Of a text of several lines, only an empty last one
is overlooked; any other makes the text stand for itself.
-/

namespace BucketClient.Log

/-- What a text refers to. -/
inductive Reference where
  | entry (path : String)
  | constant (name : String)
  deriving DecidableEq, Repr

/-- The only line of a text, whether or not a line feed ends it. -/
def onlyLine? (text : List Char) : Option (List Char) :=
  match text.dropWhile (· != '\n') with
  | [] | ['\n'] => some (text.takeWhile (· != '\n'))
  | _ => none

/-- What follows a scheme, if a text starts with it and goes on in the same line. -/
def afterScheme? (scheme : String) (text : List Char) : Option String :=
  if scheme.toList.isPrefixOf text then (onlyLine? (text.drop scheme.length)).map String.ofList else none

/-- What a text refers to, if it is a reference. -/
def Reference.ofText? (s : String) : Option Reference :=
  ((afterScheme? "cfg://" s.toList).map .entry).or ((afterScheme? "ext://" s.toList).map .constant)

/-! ## Constants of modules -/

/-- The modules that provide constants, and whether further modules may lie below them. -/
def modules : List (String × Bool) :=
  [("logging", true), ("objstore", true), ("sys", false), ("builtins", false)]

/-- Classes of the module of loggers. -/
def classNames : List String :=
  ["Handler", "StreamHandler", "FileHandler", "NullHandler", "Formatter", "BufferingFormatter", "Filter", "Filterer",
    "LogRecord", "Logger", "LoggerAdapter", "RootLogger", "Manager", "PlaceHolder"]

/-- Classes of values. -/
def typeNames : List String :=
  ["bool", "bytearray", "bytes", "complex", "dict", "float", "frozenset", "int", "list", "object", "set", "str",
    "tuple", "type"]

/-- A class as an entry. -/
def classEntry (name : String) : Entry :=
  .part "type" ("<class " ++ Text.quoted name ++ ">")

/-- The constants of modules by their full names. -/
def constants : List (String × Entry) :=
  levelNumbers.map (fun (name, n) => ("logging." ++ name, .value (.int n))) ++
    ["raiseExceptions", "logThreads", "logProcesses", "logMultiprocessing"].map
      (fun name => ("logging." ++ name, .value (.bool true))) ++
    classNames.map (fun name => ("logging." ++ name, classEntry ("logging." ++ name))) ++
    typeNames.map (fun name => ("builtins." ++ name, classEntry name)) ++
    [("logging.root", .part "RootLogger" "<RootLogger root (WARNING)>"),
      ("logging.root.level", .value (.int Threshold.root)), ("logging.root.name", .value (.text "root")),
      ("builtins.True", .value (.bool true)), ("builtins.False", .value (.bool false)),
      ("builtins.None", .value .null), ("builtins", .part "module" "<module \x27builtins\x27 (built-in)>"),
      ("sys.maxsize", .value (.int Entry.maxIndex)), ("sys.maxunicode", .value (.int 0x10ffff)),
      ("sys.byteorder", .value (.text "little")), ("sys.platform", .value (.text "linux")),
      ("sys.stdout", .part "TextIOWrapper"
        "<_io.TextIOWrapper name=\x27<stdout>\x27 mode=\x27w\x27 encoding=\x27utf-8\x27>"),
      ("sys", .part "module" "<module \x27sys\x27 (built-in)>")]

/-- What is wrong with the name of a constant that there is none of: the first module that it would need and that does
not exist. -/
def noConstant (name : String) : ReferenceFault :=
  match name.splitOn "." with
  | "" :: _ => .unnamedModule
  | top :: next :: _ => match modules.lookup top with
    | none => .missingModule name top none
    | some isPackage =>
      .missingModule name (top ++ "." ++ next) (if isPackage then none else some top)
  | _ => .missingModule name name none

/-- What a reference in a set-up stands for. -/
def Reference.target (root : Entry) : Reference → Except Failure Entry
  | .entry path => root.find path
  | .constant name => match constants.lookup name with
    | some e => .ok e
    | none => .error (.reference (noConstant name))

/-- What a value in a set-up stands for: a text that is a reference for its target, any other value for itself. -/
def Entry.ofValue (root : Entry) (v : Value) : Except Failure Entry :=
  match v with
  | .text s => match Reference.ofText? s with
    | some r => r.target root
    | none => .ok (.value v)
  | _ => .ok (.value v)

/-- The level that an entry stands for. -/
def Entry.level (kept : Threshold) : Entry → Except Failure Threshold
  | .value v => levelOf kept v
  | e => e.exactText >>= fun given => .error (.type (.level given))

end BucketClient.Log
