import BucketClient.Method
import BucketClient.Value

/-!
# Failures

What can go wrong, one constructor per cause. A failure has a kind, a message and sometimes another failure as its
cause. Failures that a source or a service raises are carried as they come (`Failure.raised`); the others arise in
this library. A failure of the kind `interrupt` is a request to stop at once: no handler takes it for an error.

Every failure is taken to have a text. A failure from outside that fails in its turn when it is asked for its text is
left out, and so are numbers of parts, where the parts themselves are counted, that have too many digits to be written.
-/

namespace BucketClient

/-- The kinds of failure. -/
inductive Kind where
  | general
  | runtime
  | system
  | value
  | key
  | index
  | type
  | attribute
  | overflow
  | memory
  | recursion
  | timeout
  | endOfInput
  | interrupt
  | decoding
  | missingModule
  | objectStorage
  | storage
  | chunkRead
  | invalidArgument
  | incompleteUpload
  deriving DecidableEq, Repr, Inhabited

namespace Kind

/-- The name of a kind. -/
def name : Kind → String
  | .general => "Exception"
  | .runtime => "RuntimeError"
  | .system => "OSError"
  | .value => "ValueError"
  | .key => "KeyError"
  | .index => "IndexError"
  | .type => "TypeError"
  | .attribute => "AttributeError"
  | .overflow => "OverflowError"
  | .memory => "MemoryError"
  | .recursion => "RecursionError"
  | .timeout => "TimeoutError"
  | .endOfInput => "EOFError"
  | .interrupt => "KeyboardInterrupt"
  | .decoding => "UnicodeDecodeError"
  | .missingModule => "ModuleNotFoundError"
  | .objectStorage => "ObjectStorageError"
  | .storage => "StorageError"
  | .chunkRead => "ChunkReadError"
  | .invalidArgument => "InvalidArgumentError"
  | .incompleteUpload => "IncompleteUploadError"

/-- All kinds. -/
def all : List Kind :=
  [.general, .runtime, .system, .value, .key, .index, .type, .attribute, .overflow, .memory, .recursion, .timeout,
    .endOfInput, .interrupt, .decoding, .missingModule, .objectStorage, .storage, .chunkRead, .invalidArgument,
    .incompleteUpload]

/-- The kind of a name. -/
def ofName? (s : String) : Option Kind :=
  all.find? fun k => k.name == s

/-- The kinds that this library adds. -/
def own : List Kind := [.objectStorage, .storage, .chunkRead, .invalidArgument, .incompleteUpload]

/-- A kind of this library with the more general kinds that it belongs to, itself first. -/
def lineage : Kind → List Kind
  | .chunkRead => [.chunkRead, .objectStorage]
  | .invalidArgument => [.invalidArgument, .objectStorage, .value]
  | .storage => [.storage, .objectStorage, .runtime]
  | .incompleteUpload => [.incompleteUpload, .objectStorage]
  | k => [k]

end Kind

/-- What is wrong with an argument. -/
inductive ArgumentFault where
  | blankBucket
  | emptyKey
  | negativeSize
  | negativeRange
  | unsupportedAcl (given : Option String)
  deriving DecidableEq, Repr

/-- The wording of a wrong argument. -/
def ArgumentFault.message : ArgumentFault → String
  | .blankBucket => "bucket name is required"
  | .emptyKey => "object key is required"
  | .negativeSize => "size must not be negative"
  | .negativeRange => "offset and length must not be negative"
  | .unsupportedAcl given =>
    "Unsupported bucket ACL: " ++ (given.elim "None" Text.quoted) ++
      ". Expected one of authenticated-read, private, public-read, public-read-write."

/-- Why a storage service did not do what it was asked to, or answered unusably. -/
inductive StorageFault where
  | missingUploadId
  | missingPartTag (number : Int)
  | missingMarker
  | unknownUpload (uploadId : String)
  | wrongLength (number : Int) (declared : Option Int) (delivered : Nat)
  | unsortedParts
  | tagMismatch (number : Int)
  | unknownObject (path : String)
  | bucketExists (bucket : String)
  | unknownBucket (bucket : String)
  | bucketNotEmpty (bucket : String)
  deriving DecidableEq, Repr

/-- The wording of a storage fault. -/
def StorageFault.message : StorageFault → String
  | .missingUploadId => "S3 response missing UploadId"
  | .missingPartTag number => "S3 response missing ETag for part " ++ toString number
  | .missingMarker => "Truncated listing page carried no continuation marker"
  | .unknownUpload uploadId => "Upload " ++ uploadId ++ " not found"
  | .wrongLength number declared delivered =>
    "Part " ++ toString number ++ " declared " ++ declared.elim "None" toString ++ " bytes, got " ++
      toString delivered
  | .unsortedParts => "Parts must be sorted by part number"
  | .tagMismatch number => "ETag mismatch for part " ++ toString number
  | .unknownObject path => "Object " ++ path ++ " not found"
  | .bucketExists bucket => "Bucket " ++ bucket ++ " already exists"
  | .unknownBucket bucket => "Bucket " ++ bucket ++ " not found"
  | .bucketNotEmpty bucket => "Bucket " ++ bucket ++ " is not empty"

/-- How far the text of a place in a template may be told to reach: its least width, or its precision. -/
inductive Reach where
  | width
  | precision
  deriving DecidableEq, Repr

/-- The name of a reach. -/
def Reach.name : Reach → String
  | .width => "width"
  | .precision => "precision"

/-- The furthest that a place can be told to reach. -/
def Reach.limit : Reach → Nat
  | .width => Nat.pow 2 63 - 1
  | .precision => Nat.pow 2 31 - 1

/-- What is wrong with a value. -/
inductive ValueFault where
  | partSize
  | partRegistered (number : Int)
  | emptyItem
  | addressingStyle
  | maxKeys
  | numeral (fault : Text.NumeralFault)
  /-- A number that is no number, read as a whole one. -/
  | undefinedNumber
  | nullByte
  | environmentName
  | unknownLevel (name : String)
  | unknownConversion (conversion : Char) (position : Nat)
  | incompleteConversion
  | unclosedKey
  | tooBig (reach : Reach)
  deriving DecidableEq, Repr

/-- The wording of a wrong value. If the number of a part cannot be written, that is what is said instead. -/
def ValueFault.message : ValueFault → String
  | .partSize => "part_size must be positive"
  | .partRegistered number =>
    if Text.isWritable number then "Part " ++ toString number ++ " already registered"
    else Text.NumeralFault.unwritable.message
  | .emptyItem => "StreamedItem needs exactly one of data or error"
  | .addressingStyle => "S3_ADDRESSING_STYLE must be one of auto, path, virtual."
  | .maxKeys => "S3_LIST_MAX_KEYS must be between 1 and 1000."
  | .numeral fault => fault.message
  | .undefinedNumber => "cannot convert float NaN to integer"
  | .nullByte => "embedded null byte"
  | .environmentName => "illegal environment variable name"
  | .unknownLevel name => "Unknown level: " ++ Text.quoted name
  | .unknownConversion conversion position =>
    let shown := if 0x1f ≤ conversion.toNat && conversion.toNat ≤ 0x7e then conversion else '?'
    "unsupported format character " ++ String.ofList ['\x27', shown, '\x27'] ++ " (0x" ++
      String.ofList (Nat.toDigits 16 conversion.toNat) ++ ") at index " ++ toString position
  | .incompleteConversion => "incomplete format"
  | .unclosedKey => "incomplete format key"
  | .tooBig reach => reach.name ++ " too big"

/-- A value of a shape that cannot be used as it was. -/
inductive TypeFault where
  | unusedArguments
  | missingArgument
  | namedPlace
  | extent
  | notNumeric (letter : Char) (shape : String)
  | notWhole (letter : Char) (shape : String)
  | notReal (shape : String)
  | notCharacter
  | notConvertible (shape : String)
  | notIterable (shape : String)
  | notIndexable (shape : String)
  | notOrdered (sign left right : String)
  | notAddable (left right : String)
  | notStem (shape : String)
  | textIndex
  | listIndex
  | level (given : String)
  | unknownSetting (name : String)
  /-- A point in time, written as JSON. -/
  | notWritten
  deriving DecidableEq, Repr

/-- The wording of a wrong shape. -/
def TypeFault.message : TypeFault → String
  | .unusedArguments => "not all arguments converted during string formatting"
  | .missingArgument => "not enough arguments for format string"
  | .namedPlace => "format requires a mapping"
  | .extent => "* wants int"
  | .notNumeric letter shape =>
    "%" ++ String.singleton letter ++ " format: a real number is required, not " ++ shape
  | .notWhole letter shape =>
    "%" ++ String.singleton letter ++ " format: an integer is required, not " ++ shape
  | .notReal shape => "must be real number, not " ++ shape
  | .notCharacter => "%c requires int or char"
  | .notConvertible shape =>
    "int() argument must be a string, a bytes-like object or a real number, not " ++ Text.quoted shape
  | .notIterable shape => Text.quoted shape ++ " object is not iterable"
  | .notIndexable shape => Text.quoted shape ++ " object is not subscriptable"
  | .notOrdered sign left right =>
    Text.quoted sign ++ " not supported between instances of " ++ Text.quoted left ++ " and " ++ Text.quoted right
  | .notAddable left right =>
    "unsupported operand type(s) for +: " ++ Text.quoted left ++ " and " ++ Text.quoted right
  | .notStem shape => "startswith first arg must be str or a tuple of str, not " ++ shape
  | .textIndex => "string indices must be integers, not \x27str\x27"
  | .listIndex => "list indices must be integers or slices, not str"
  | .level given => "Level not an integer or a valid string: " ++ given
  | .unknownSetting name => "Settings.__init__() got an unexpected keyword argument \x27" ++ name ++ "\x27"
  | .notWritten => "Object of type datetime is not JSON serializable"

/-- A number that does not fit where it is used. -/
inductive OverflowFault where
  | extent (reach : Reach)
  | precision
  | character
  | real
  /-- An infinite number, read as a whole one. -/
  | infinite
  deriving DecidableEq, Repr

/-- The wording of a number that does not fit. -/
def OverflowFault.message : OverflowFault → String
  | .extent .width => "Python int too large to convert to C ssize_t"
  | .extent .precision => "Python int too large to convert to C int"
  | .precision => "precision too large"
  | .character => "%c arg not in range(0x110000)"
  | .real => "int too large to convert to float"
  | .infinite => "cannot convert float infinity to integer"

/-- Why a reference leads to nothing. -/
inductive ReferenceFault where
  | noWord (path : String)
  | noStep (path left : String)
  | noPlace (number : Nat)
  | behindText
  | behindList
  | hugeIndex
  | endless
  | unnamedModule
  /-- A name that needs a module which does not exist; `above` is a module that has none below it. -/
  | missingModule (name missing : String) (above : Option String)
  deriving DecidableEq, Repr

namespace ReferenceFault

/-- The kind of a failed reference. -/
def kind : ReferenceFault → Kind
  | .noWord _ | .noStep _ _ | .unnamedModule | .missingModule _ _ _ => .value
  | .noPlace _ => .key
  | .behindText | .behindList | .hugeIndex => .index
  | .endless => .recursion

/-- The wording of a module that does not exist. -/
def moduleText (missing : String) (above : Option String) : String :=
  "No module named " ++ Text.quoted missing ++ above.elim "" fun m => "; " ++ Text.quoted m ++ " is not a package"

/-- The wording of a failed reference. -/
def message : ReferenceFault → String
  | .noWord path => "Unable to convert " ++ Text.quoted path
  | .noStep path left => "Unable to convert " ++ Text.quoted path ++ " at " ++ Text.quoted left
  | .noPlace number => toString number
  | .behindText => "string index out of range"
  | .behindList => "list index out of range"
  | .hugeIndex => "cannot fit \x27int\x27 into an index-sized integer"
  | .endless => "maximum recursion depth exceeded while calling a Python object"
  | .unnamedModule => "Empty module name"
  | .missingModule name missing above =>
    "Cannot resolve " ++ Text.quoted name ++ ": " ++ moduleText missing above

end ReferenceFault

/-- Something that went wrong. -/
inductive Failure where
  /-- A failure from outside, of a given kind and text. -/
  | raised (kind : Kind) (text : Option String)
  /-- A failure from outside that has another one as its cause. -/
  | raisedFrom (kind : Kind) (text : Option String) (cause : Failure)
  /-- An argument that no service would accept. -/
  | argument (fault : ArgumentFault)
  /-- A read of the source that failed within a part. -/
  | unreadablePart (number : Nat) (cause : Failure)
  /-- A fault of the storage service. -/
  | storage (fault : StorageFault)
  /-- A request that the service failed. -/
  | refused (method : Method) (cause : Failure)
  /-- The upload of a part that the service failed. -/
  | refusedPart (number : Int) (cause : Failure)
  /-- The library that speaks to the service is not installed. -/
  | notInstalled
  /-- A session that failed in a part, or in its completion when no part is named. -/
  | incompleteUpload (bucket key uploadId : String) (part : Option Nat) (cause : Failure)
  /-- A wrong value. -/
  | value (fault : ValueFault)
  /-- A value of a wrong shape. -/
  | type (fault : TypeFault)
  /-- A value without the text that was to be trimmed. -/
  | notText (shape : String)
  /-- A number that does not fit. -/
  | overflow (fault : OverflowFault)
  /-- A text that is too long to be held. -/
  | outOfMemory
  /-- A name in the environment that is empty. -/
  | emptyName
  /-- A field that a record lacks. -/
  | missingField (name : String)
  /-- A part that a session lacks. -/
  | missingPart (number : Int)
  /-- The last element of an empty list. -/
  | emptyIndex
  /-- A file that is not UTF-8. -/
  | undecodable
  /-- A reference that leads to nothing. -/
  | reference (fault : ReferenceFault)
  /-- A logger that could not be set up. -/
  | unconfigurable (logger : String) (cause : Failure)
  deriving DecidableEq, Repr, Inhabited

namespace Failure

/-- A missing number that is put in order before or after a number: `sign` stands between the two. -/
def missingBefore (sign : String) : Failure :=
  .type (.notOrdered sign Value.null.shape (Value.int 0).shape)

/-- A number that is put in order before or after a missing one: `sign` stands between the two. -/
def missingAfter (sign : String) : Failure :=
  .type (.notOrdered sign (Value.int 0).shape Value.null.shape)

/-- A missing number that is read as one. -/
def missingNumber : Failure :=
  .type (.notConvertible Value.null.shape)

/-- The kind of a failure. -/
def kind : Failure → Kind
  | .raised kind _ | .raisedFrom kind _ _ => kind
  | .argument _ => .invalidArgument
  | .unreadablePart _ _ => .chunkRead
  | .storage _ | .refused _ _ | .refusedPart _ _ | .notInstalled => .storage
  | .incompleteUpload _ _ _ _ _ => .incompleteUpload
  | .value _ | .unconfigurable _ _ => .value
  | .type _ => .type
  | .notText _ => .attribute
  | .overflow _ => .overflow
  | .outOfMemory => .memory
  | .emptyName => .system
  | .missingField _ | .missingPart _ => .key
  | .emptyIndex => .index
  | .undecodable => .decoding
  | .reference fault => fault.kind

/-- Whether a failure is a request to stop, which no handler takes for an error. -/
def isInterrupt (e : Failure) : Bool :=
  e.kind == .interrupt

/-- The failure behind a failure. -/
def cause? : Failure → Option Failure
  | .raisedFrom _ _ cause | .unreadablePart _ cause | .refused _ cause | .refusedPart _ cause
  | .incompleteUpload _ _ _ _ cause | .unconfigurable _ cause => some cause
  | .notInstalled => some (.raised .missingModule none)
  | .reference (.missingModule _ missing above) =>
    some (.raised .missingModule (some (ReferenceFault.moduleText missing above)))
  | _ => none

/-- The text of a failure from outside; a failed look-up shows the key in quotes. -/
def raisedText (kind : Kind) (text : Option String) : String :=
  if kind = .key then text.elim "" Text.quoted else text.getD ""

/-- The message of a failure. -/
def message : Failure → String
  | .raised kind text | .raisedFrom kind text _ => raisedText kind text
  | .argument fault => fault.message
  | .unreadablePart number cause => "Failed to read part " ++ toString number ++ ": " ++ cause.message
  | .storage fault => fault.message
  | .refused method cause => "Failed to " ++ method.purpose ++ ": " ++ cause.message
  | .refusedPart number cause => "Failed to upload part " ++ toString number ++ ": " ++ cause.message
  | .notInstalled =>
    "boto3 and botocore are required for the S3 transport. Install with: pip install boto3"
  | .incompleteUpload _ _ _ (some number) cause =>
    "Upload of part " ++ toString number ++ " failed: " ++ cause.message
  | .incompleteUpload _ _ _ none cause => "Completion of multipart upload failed: " ++ cause.message
  | .value fault => fault.message
  | .type fault => fault.message
  | .notText shape => Text.quoted shape ++ " object has no attribute \x27strip\x27"
  | .overflow fault => fault.message
  | .outOfMemory => ""
  | .emptyName => "[Errno 22] Invalid argument"
  | .missingField name => Text.quoted name
  | .missingPart number => toString number
  | .emptyIndex => "list index out of range"
  | .undecodable => "the text is not valid UTF-8"
  | .reference fault => fault.message
  | .unconfigurable logger _ => "Unable to configure logger " ++ Text.quoted logger

/-- The exact text of a failure: its kind with the quoted text that it was made from. -/
def exactText (e : Failure) : String :=
  let made := match e with
    | .raised _ text | .raisedFrom _ text _ => text.elim "" Text.quoted
    | .missingField name => Text.quoted name
    | .missingPart number => toString number
    | .reference (.noPlace number) => toString number
    | e => Text.quoted e.message
  e.kind.name ++ "(" ++ made ++ ")"

end Failure

namespace Value

/-- The exact text of a value, where texts stand in quotes. -/
def exactText (v : Value) : Except Failure String :=
  if v.isWritable then .ok v.shown else .error (.value (.numeral .unwritable))

/-- The plain text of a value: a text as it is, a point in time plainly, any other value exactly. -/
def plainText : Value → Except Failure String
  | .text s => .ok s
  | .time plain _ => .ok plain
  | v => v.exactText

@[simp]
theorem plainText_text (s : String) : (text s).plainText = .ok s := rfl

/-- The text of a value that counts as true, else nothing. -/
def textOrEmpty (v : Value) : Except Failure String :=
  if v.truth then v.plainText else .ok ""

/-- A value that can be written has a plain text, any other one has none. -/
theorem plainText_cases (v : Value) :
    (v.isWritable = true ∧ ∃ s, v.plainText = .ok s) ∨
      (v.isWritable = false ∧ v.plainText = .error (.value (.numeral .unwritable))) := by
  have hexact : (v.isWritable = true ∧ ∃ s, v.exactText = .ok s) ∨
      (v.isWritable = false ∧ v.exactText = .error (.value (.numeral .unwritable))) := by
    unfold exactText
    cases v.isWritable with
    | true => exact .inl ⟨rfl, _, rfl⟩
    | false => exact .inr ⟨rfl, rfl⟩
  cases v with
  | text s => exact .inl ⟨by simp [isWritable], s, plainText_text s⟩
  | time plain exact => exact .inl ⟨by simp [isWritable], plain, rfl⟩
  | _ => exact hexact

/-- A value that does not count as true or can be written has a text, empty or not, any other one has none. -/
theorem textOrEmpty_cases (v : Value) :
    ((v.truth = true → v.isWritable = true) ∧ ∃ s, v.textOrEmpty = .ok s) ∨
      (v.truth = true ∧ v.isWritable = false) ∧ v.textOrEmpty = .error (.value (.numeral .unwritable)) := by
  unfold textOrEmpty
  cases v.truth with
  | false => exact .inl ⟨fun h => (by cases h), _, rfl⟩
  | true =>
    rcases v.plainText_cases with ⟨hw, h⟩ | ⟨hw, h⟩
    · exact .inl ⟨fun _ => hw, h⟩
    · exact .inr ⟨⟨rfl, hw⟩, h⟩

/-- The number that a value stands for: itself, without what stands behind the point, the truth of a Boolean, or a
numeral. -/
def toInt : Value → Except Failure Int
  | .int n => .ok n
  | .bool b => .ok (if b then 1 else 0)
  | .real (.finite d) => .ok d.truncated
  | .real (.infinite _) => .error (.overflow .infinite)
  | .real .undefined => .error (.value .undefinedNumber)
  | .text s => match Text.readNumeral s with
    | .ok n => .ok n
    | .error fault => .error (.value (.numeral fault))
  | v => .error (.type (.notConvertible v.shape))

/-- The text of a value without the white space around it; what counts as false has the empty text. -/
def stripped (v : Value) : Except Failure String :=
  match v with
  | .text s => .ok (Text.strip s)
  | v => if v.truth then .error (.notText v.shape) else .ok ""

/-- The value of a required field of a record. -/
def required (name : String) : Value → Except Failure Value
  | .record fields => match fields.lookup name with
    | some v => .ok v
    | none => .error (.missingField name)
  | .text _ => .error (.type .textIndex)
  | .list _ => .error (.type .listIndex)
  | v => .error (.type (.notIndexable v.shape))

/-- The elements of a value that can be walked through: of a text its characters, of a record its names. -/
def elements : Value → Except Failure (List Value)
  | .list items => .ok items
  | .text s => .ok (s.toList.map fun c => .text (String.singleton c))
  | .record fields => .ok (fields.map fun f => .text f.1)
  | v => .error (.type (.notIterable v.shape))

end Value

end BucketClient
