import BucketClient.Failure
import BucketClient.Text.LetterCase

/-!
# Settings

Where the service is, who the caller is, and the defaults of requests. Settings are given by name and in any shape
(`RawSettings.ofFields`); all but the addressing style are kept as they are given. Where a switch is wanted, it is the
truth of the value, and the keys of a listing are the number of the value.
Settings are checked when they are made (`Settings.make`): the addressing style is one of three after trimming and in
lower case, and a listing asks for between one and a thousand keys. When both are wrong, the style is reported.
-/

namespace BucketClient

/-- How a bucket is named in an address. -/
inductive AddressingStyle where
  | auto
  | path
  | virtual
  deriving DecidableEq, Repr

namespace AddressingStyle

/-- All styles. -/
def all : List AddressingStyle := [.auto, .path, .virtual]

/-- The name of a style. -/
def name : AddressingStyle → String
  | .auto => "auto"
  | .path => "path"
  | .virtual => "virtual"

/-- The style of a name, which may stand among white space and in any case. -/
def ofName? (s : String) : Option AddressingStyle :=
  let plain := Text.lower (Text.strip s)
  all.find? fun style => style.name == plain

end AddressingStyle

/-- The settings as they are given, before they are checked. -/
structure RawSettings where
  endpoint : Value := .null
  region : Value := .text "us-east-1"
  accessKeyId : Value := .null
  secretAccessKey : Value := .null
  useSsl : Value := .bool true
  addressingStyle : Value := .text "path"
  contentType : Value := .text "application/octet-stream"
  listMaxKeys : Value := .int 1000
  enableMetrics : Value := .bool true
  deriving Repr

namespace RawSettings

/-- Gives the setting of a name a value. -/
def assign (raw : RawSettings) (name : String) (v : Value) : Except Failure RawSettings :=
  match name with
  | "S3_ENDPOINT_URL" => .ok { raw with endpoint := v }
  | "S3_REGION" => .ok { raw with region := v }
  | "S3_ACCESS_KEY_ID" => .ok { raw with accessKeyId := v }
  | "S3_SECRET_ACCESS_KEY" => .ok { raw with secretAccessKey := v }
  | "S3_USE_SSL" => .ok { raw with useSsl := v }
  | "S3_ADDRESSING_STYLE" => .ok { raw with addressingStyle := v }
  | "S3_CONTENT_TYPE" => .ok { raw with contentType := v }
  | "S3_LIST_MAX_KEYS" => .ok { raw with listMaxKeys := v }
  | "ENABLE_METRICS" => .ok { raw with enableMetrics := v }
  | name => .error (.type (.unknownSetting name))

/-- The settings that are given by name; the others are the standard ones. -/
def ofFields (fields : List (String × Value)) : Except Failure RawSettings :=
  fields.foldlM (fun raw field => raw.assign field.1 field.2) {}

end RawSettings

/-- The settings of a client. -/
structure Settings where
  endpoint : Value := .null
  region : Value := .text "us-east-1"
  accessKeyId : Value := .null
  secretAccessKey : Value := .null
  useSsl : Value := .bool true
  addressingStyle : AddressingStyle := .path
  contentType : Value := .text "application/octet-stream"
  listMaxKeys : Value := .int 1000
  enableMetrics : Value := .bool true
  /-- The number of keys that a listing asks for. -/
  maxKeys : Int := 1000
  toInt_listMaxKeys : listMaxKeys.toInt = .ok maxKeys := by rfl
  maxKeys_pos : 1 ≤ maxKeys := by decide
  maxKeys_le : maxKeys ≤ 1000 := by decide

namespace Settings

/-- Checks settings. -/
def make (raw : RawSettings) : Except Failure Settings := do
  let style ← raw.addressingStyle.stripped
  match AddressingStyle.ofName? style with
  | none => .error (.value .addressingStyle)
  | some style => match hn : raw.listMaxKeys.toInt with
    | .error e => .error e
    | .ok maxKeys =>
      if h : 1 ≤ maxKeys ∧ maxKeys ≤ 1000 then
        .ok {
          endpoint := raw.endpoint
          region := raw.region
          accessKeyId := raw.accessKeyId
          secretAccessKey := raw.secretAccessKey
          useSsl := raw.useSsl
          addressingStyle := style
          contentType := raw.contentType
          listMaxKeys := raw.listMaxKeys
          enableMetrics := raw.enableMetrics
          maxKeys := maxKeys
          toInt_listMaxKeys := hn
          maxKeys_pos := h.1
          maxKeys_le := h.2
        }
      else .error (.value .maxKeys)

/-- The settings that are given by name. -/
def ofFields (fields : List (String × Value)) : Except Failure Settings := do
  make (← RawSettings.ofFields fields)

/-- Whether operations are counted. -/
def counts (settings : Settings) : Bool :=
  settings.enableMetrics.truth

end Settings

end BucketClient
