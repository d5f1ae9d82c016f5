import BucketClient.Dictionary
import BucketClient.Settings
import BucketClient.Text.Lines

/-!
# Settings from the environment

The environment maps names to values. A settings file adds bindings to it, one a line: blank lines, comments and
lines without an equals sign are passed over, white space around names and values is dropped and so are the quotes
around a value, and a name that the environment has keeps its value. The bindings go in one by one, so those before a
binding that the environment refuses stay.

Settings are read from the environment after the file (`Settings.load`). A cache keeps the first settings that were
read without a failure (`SettingsCache.get`).
-/

namespace BucketClient

/-- The names that have a value, with their values. -/
abbrev Environment := Dictionary String String

/-- A name with the value that a line of a settings file gives it. -/
structure Binding where
  name : String
  value : String
  deriving DecidableEq, Repr

namespace Binding

/-- A value without the white space around it and then without double quotes and single quotes at its ends. -/
def bareValue (cs : List Char) : List Char :=
  Text.trim (· == '\x27') (Text.trim (· == '\x22') (Text.trim Text.isBlank cs))

/-- The binding of a line: the name ends at the first equals sign. -/
def ofLine? (line : List Char) : Option Binding :=
  let line := Text.trim Text.isBlank line
  let name := Text.trim Text.isBlank (line.takeWhile (· != '='))
  if line.head? == some '#' || !line.contains '=' || name.isEmpty then none
  else some ⟨String.ofList name, String.ofList (bareValue ((line.dropWhile (· != '=')).drop 1))⟩

/-- The bindings of a settings file, in their order. -/
def ofText (text : String) : List Binding :=
  (Text.lines text.toList).filterMap ofLine?

/-- Why an environment refuses a binding: a null character in its name or value, an equals sign in its name, or an
empty name. -/
def fault? (b : Binding) : Option Failure :=
  if b.name.toList.contains '\x00' || b.value.toList.contains '\x00' then some (.value .nullByte)
  else if b.name.toList.contains '=' then some (.value .environmentName)
  else if b.name.isEmpty then some .emptyName
  else none

end Binding

namespace Environment

/-- Gives a name a value. -/
def assign (env : Environment) (b : Binding) : Except Failure Environment :=
  match b.fault? with
  | some e => .error e
  | none => .ok (env.insert b.name b.value)

/-- Adds bindings one by one to the names without a value, up to the first that is refused. -/
def addMissing (env : Environment) : List Binding → Except Failure Unit × Environment
  | [] => (.ok (), env)
  | b :: rest =>
    if env.contains b.name then addMissing env rest
    else match env.assign b with
      | .error e => (.error e, env)
      | .ok env => addMissing env rest

/-- Adds the bindings of a settings file, if there is one; a file that is not UTF-8 adds none. -/
def addFile (env : Environment) : Option ByteArray → Except Failure Unit × Environment
  | none => (.ok (), env)
  | some file => match String.fromUTF8? file with
    | none => (.error .undecodable, env)
    | some text => env.addMissing (Binding.ofText text)

/-- The truth of a switch: the words for yes in any case. -/
def switch (value : Option String) (default : Bool) : Bool :=
  match value with
  | none => default
  | some s => ["1", "true", "t", "yes", "y", "on"].contains (Text.lower s)

/-- The settings that an environment holds. -/
def settings (env : Environment) : Except Failure Settings := do
  let standard : RawSettings := {}
  let given (name : String) (default : Value) : Value := (env.get? name).elim default .text
  let listMaxKeys ← (given "S3_LIST_MAX_KEYS" standard.listMaxKeys).toInt
  Settings.make {
    endpoint := ((env.get? "S3_ENDPOINT_URL").filter (!·.isEmpty)).elim .null .text
    region := given "S3_REGION" standard.region
    accessKeyId := given "S3_ACCESS_KEY_ID" standard.accessKeyId
    secretAccessKey := given "S3_SECRET_ACCESS_KEY" standard.secretAccessKey
    useSsl := .bool (switch (env.get? "S3_USE_SSL") standard.useSsl.truth)
    addressingStyle := given "S3_ADDRESSING_STYLE" standard.addressingStyle
    contentType := given "S3_CONTENT_TYPE" standard.contentType
    listMaxKeys := .int listMaxKeys
    enableMetrics := .bool (switch (env.get? "ENABLE_METRICS") standard.enableMetrics.truth)
  }

end Environment

/-- Adds a settings file to the environment and reads the settings from it. -/
def Settings.load (file : Option ByteArray) (env : Environment) : Except Failure Settings × Environment :=
  match env.addFile file with
  | (.error e, env) => (.error e, env)
  | (.ok (), env) => (env.settings, env)

/-- The settings that have been read, if any. -/
structure SettingsCache where
  kept : Option Settings := none

/-- The kept settings, or newly read ones, which are kept if reading does not fail. -/
def SettingsCache.get (cache : SettingsCache) (file : Option ByteArray) (env : Environment) :
    Except Failure Settings × SettingsCache × Environment :=
  match cache.kept with
  | some settings => (.ok settings, cache, env)
  | none => match Settings.load file env with
    | (.ok settings, env) => (.ok settings, ⟨some settings⟩, env)
    | (.error e, env) => (.error e, cache, env)

end BucketClient
