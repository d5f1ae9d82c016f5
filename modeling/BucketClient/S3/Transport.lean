import BucketClient.S3.Call
import BucketClient.Settings
import BucketClient.Text.Blank

/-!
# The transport to an S3 service

Each request is carried out by one wire call. A request may fail before its call is made: when it lacks a number, when
it reads a range that cannot be written, and when it creates a bucket in a region that is no text. A call that the
service fails becomes a storage failure with the service's failure as its cause; an interrupt passes through. The
response is then read: a session without an identifier and a part without a tag are storage failures, while completing
and storing do without a tag. A missing body, a listed entry without its key or name and a size that is no number are
reported as what they are, and so is a number that has too many digits to be written, wherever its text is needed.
-/

namespace BucketClient.S3

variable {τ : Type}

/-- A failure whose text names a number, unless the number cannot be written. -/
def naming (number : Int) (error : Failure) : Failure :=
  if Text.isWritable number then error else .value (.numeral .unwritable)

/-- The failure of a request whose call the service failed. -/
def refusal (request : Request) (error : Failure) : Failure :=
  if error.isInterrupt then error
  else match request with
    | .uploadPart _ _ _ number _ _ => naming number (.refusedPart number error)
    | request => .refused request.method error

/-- The content type that is sent: the given one, unless it is missing or empty. -/
def contentTypeOr (settings : Settings) (contentType : Option String) : Value :=
  match contentType with
  | some s => if s.isEmpty then settings.contentType else .text s
  | none => settings.contentType

/-- The location of a new bucket: the region, which is not sent when it is blank or the standard one. -/
def location? (settings : Settings) : Except Failure (Option String) :=
  settings.region.stripped.map fun region =>
    if region.isEmpty || region == "us-east-1" then none else some region

/-- The range of a read, if it needs one. -/
def range? : (offset length : Option Int) → Except Failure (Option ByteRange)
  | some offset, some length => match ByteRange.of? offset length with
    | none => .ok none
    | some range => match range.check with
      | .ok () => .ok (some range)
      | .error fault => .error (.value (.numeral fault))
  | none, some length =>
    if 0 < length then .error (.type (.notAddable Value.null.shape (Value.int length).shape))
    else .error (.missingBefore ">")
  | _, none => .error (.missingBefore ">")

/-- The call that carries out a request. -/
def callFor (settings : Settings) : Request → Except Failure Call
  | .initUpload bucket key contentType =>
    .ok (.createMultipartUpload bucket key (contentTypeOr settings contentType))
  | .uploadPart bucket key uploadId number (some length) data =>
    .ok (.uploadPart bucket key uploadId number length data)
  | .uploadPart _ _ _ number none _ => .error (naming number (.refusedPart number .missingNumber))
  | .completeUpload bucket key uploadId parts => .ok (.completeMultipartUpload bucket key uploadId parts)
  | .abortUpload bucket key uploadId => .ok (.abortMultipartUpload bucket key uploadId)
  | .putObject bucket key (some length) data contentType =>
    .ok (.putObject bucket key length (contentTypeOr settings contentType) data)
  | .putObject _ _ none _ _ => .error (.refused .putObject .missingNumber)
  | .getObject bucket key offset length => (range? offset length).map fun range => .getObject bucket key range
  | .headObject bucket key => .ok (.headObject bucket key)
  | .deleteObject bucket key => .ok (.deleteObject bucket key)
  | .putBucket bucket acl => (location? settings).map fun location => .createBucket bucket acl location
  | .putBucketAcl bucket acl => .ok (.putBucketAcl bucket acl)
  | .headBucket bucket => .ok (.headBucket bucket)
  | .deleteBucket bucket => .ok (.deleteBucket bucket)
  | .listObjects bucket (some maxKeys) marker stem delimiter =>
    .ok (.listObjects bucket maxKeys (stem.getD "") (delimiter.getD "") (marker.filter (!·.isEmpty)))
  | .listObjects _ none _ _ _ => .error .missingNumber
  | .listBuckets => .ok .listBuckets

/-! ## Reading responses -/

/-- What the fields of a response or of a listed entry tell of an object. A content length hides a size, even when it
is null, and an object without either has the size zero. -/
def objectInfo (key : String) (fields : List (String × Value)) : Except Failure ObjectInfo := do
  let size := ((fields.lookup "ContentLength").or (fields.lookup "Size")).getD .null
  let size ← match size with
    | .null => .ok 0
    | v => v.toInt
  return {
    key := key
    size := size
    tag := Value.field "ETag" fields
    contentType := Value.field "ContentType" fields
    lastModified := Value.field "LastModified" fields
  }

/-- The fields of a value that is a record. -/
def fieldsOf : Value → List (String × Value)
  | .record fields => fields
  | _ => []

/-- What a listed entry tells of an object. -/
def listedObject (entry : Value) : Except Failure ObjectInfo := do
  let key ← entry.required "Key"
  objectInfo (← key.plainText) (fieldsOf entry)

/-- What a listed entry tells of a bucket. -/
def listedBucket (entry : Value) : Except Failure BucketInfo := do
  let name ← entry.required "Name"
  return ⟨← name.plainText, Value.field "CreationDate" (fieldsOf entry)⟩

/-- The entries that a response lists under a name. -/
def listed (name : String) (response : Response) : Except Failure (List Value) :=
  let entries := Value.field name response.fields
  if entries.truth then entries.elements else .ok []

/-- The answer that a response gives to a request. -/
def answer (response : Response) : (request : Request) → request.Outcome
  | .initUpload bucket key _ =>
    let uploadId := Value.field "UploadId" response.fields
    if uploadId.truth then uploadId.plainText.map fun id => ⟨id, bucket, key⟩
    else .error (.storage .missingUploadId)
  | .uploadPart _ _ _ number _ _ =>
    let tag := Value.field "ETag" response.fields
    if tag.truth then tag.plainText.map fun tag => ⟨number, tag⟩
    else .error (naming number (.storage (.missingPartTag number)))
  | .completeUpload .. => (Value.field "ETag" response.fields).textOrEmpty
  | .abortUpload .. => .ok ()
  | .putObject .. => (Value.field "ETag" response.fields).textOrEmpty
  | .getObject _ key _ _ => match response.body with
    | none => .error (.missingField "Body")
    | some body => (objectInfo key response.fields).map fun info => (body, info)
  | .headObject _ key => objectInfo key response.fields
  | .deleteObject .. => .ok ()
  | .putBucket .. => .ok ()
  | .putBucketAcl .. => .ok ()
  | .headBucket .. => .ok ()
  | .deleteBucket .. => .ok ()
  | .listObjects .. => do
    let entries ← listed "Contents" response
    let entries ← entries.mapM listedObject
    let nextMarker ← (Value.field "NextMarker" response.fields).textOrEmpty
    return {
      entries := entries
      truncated := (Value.field "IsTruncated" response.fields).truth
      nextMarker := nextMarker
    }
  | .listBuckets => do
    let entries ← listed "Buckets" response
    entries.mapM listedBucket

/-- The transport to a service. -/
def transport (settings : Settings) (service : Service τ) : Transport τ where
  perform := fun request s =>
    match callFor settings request with
    | .error error => (.error error, s)
    | .ok call => match service.respond call s with
      | (.ok response, s) => (answer response request, s)
      | (.error error, s) => (.error (refusal request error), s)

end BucketClient.S3
