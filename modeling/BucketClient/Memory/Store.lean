import BucketClient.Bytes
import BucketClient.Bytes.Digest
import BucketClient.Dictionary
import BucketClient.Request

/-!
# A storage service in memory

A store that keeps objects, buckets and upload sessions in memory, remembers every request made to it, and fails
requests on demand: all requests of an operation, the upload of a part of some number, or the listing request of some
count. An object is kept under its path, which is the bucket and the key with a slash between.

The answer to a request and the store after it are given by `Store.perform`, one function per operation.
-/

namespace BucketClient.Memory

/-- A stored object. -/
structure StoredObject where
  bucket : String
  key : String
  data : ByteArray
  tag : String
  contentType : Option String

/-- A stored bucket. -/
structure StoredBucket where
  acl : String
  createdAt : Value

/-- A part of a session: its entity tag and its bytes. -/
structure StoredPart where
  tag : String
  data : ByteArray

/-- An upload session. -/
structure StoredUpload where
  bucket : String
  key : String
  contentType : Option String
  parts : Dictionary Int StoredPart := .empty
  completed : Bool := false
  aborted : Bool := false

/-- The failures that are to be injected. -/
structure Faults where
  methods : Dictionary String Failure := .empty
  parts : Dictionary Int Failure := .empty
  listCalls : Dictionary Int Failure := .empty

/-- The state of the store; `now` is the time at which buckets are created. -/
structure Store where
  objects : Dictionary String StoredObject := .empty
  buckets : Dictionary String StoredBucket := .empty
  uploads : Dictionary String StoredUpload := .empty
  calls : List Request := []
  faults : Faults := {}
  uploadCount : Nat := 0
  listCount : Nat := 0
  now : Value := .null

/-- The path of an object. -/
def objectPath (bucket key : String) : String :=
  bucket ++ "/" ++ key

/-- The entity tag of a payload: its digest in quotation marks. -/
def payloadTag (data : ByteArray) : String :=
  "\x22" ++ Digest.hex data ++ "\x22"

/-- The entity tag of an object put together from parts. -/
def assembledTag (uploadId : String) (parts : Nat) : String :=
  "\x22mock-etag-" ++ uploadId ++ "-" ++ toString parts ++ "\x22"

/-- Whether a text occurs in another. -/
def occursIn (part : List Char) : List Char → Bool
  | [] => part.isEmpty
  | c :: rest => part.isPrefixOf (c :: rest) || occursIn part rest

/-- What a stored object tells of itself. -/
def StoredObject.info (object : StoredObject) (key : String) : ObjectInfo where
  key := key
  size := object.data.size
  tag := .text object.tag
  contentType := object.contentType.elim .null .text

namespace Store

/-- Puts an object into a bucket, which comes to be if it is missing, without a request. -/
def addObject (s : Store) (bucket key : String) (data : ByteArray) : Store :=
  { s with
    buckets := if s.buckets.contains bucket then s.buckets else s.buckets.insert bucket ⟨"private", .null⟩
    objects := s.objects.insert (objectPath bucket key) ⟨bucket, key, data, payloadTag data, none⟩ }

/-- The requests of an operation so far. -/
def callsTo (s : Store) (name : String) : List Request :=
  s.calls.filter fun request => request.method.name == name

/-- What is known of the object of a bucket and key. -/
def info (s : Store) (bucket key : String) : Except Failure ObjectInfo :=
  match s.objects.get? (objectPath bucket key) with
  | some object => .ok (object.info key)
  | none => .error (.storage (.unknownObject (objectPath bucket key)))

/-- Opens a session under the next number. -/
def initUpload (s : Store) (bucket key : String) (contentType : Option String) : UploadSession × Store :=
  let uploadId := "mock-upload-" ++ toString (s.uploadCount + 1)
  (⟨uploadId, bucket, key⟩,
    { s with
      uploadCount := s.uploadCount + 1
      uploads := s.uploads.insert uploadId { bucket := bucket, key := key, contentType := contentType } })

/-- Stores a part in a session; the declared length has to be that of the data. -/
def uploadPart (s : Store) (uploadId : String) (number : Int) (length : Option Int) (data : ByteArray) :
    Except Failure CompletedPart × Store :=
  match s.faults.parts.get? number with
  | some error => (.error error, s)
  | none => match s.uploads.get? uploadId with
    | none => (.error (.storage (.unknownUpload uploadId)), s)
    | some upload =>
      if some (data.size : Int) = length then
        let part : StoredPart := ⟨payloadTag data, data⟩
        let upload := { upload with parts := upload.parts.insert number part }
        (.ok ⟨number, part.tag⟩, { s with uploads := s.uploads.insert uploadId upload })
      else (.error (.storage (.wrongLength number length data.size)), s)

/-- The bytes of listed parts put together; each has to be stored under the tag it is listed with. -/
def assemble (upload : StoredUpload) : List CompletedPart → Except Failure ByteArray
  | [] => .ok ByteArray.empty
  | part :: rest => match upload.parts.get? part.number with
    | none => .error (.missingPart part.number)
    | some stored =>
      if stored.tag = part.tag then (assemble upload rest).map (stored.data ++ ·)
      else .error (.storage (.tagMismatch part.number))

/-- Whether no listed part has a lower number than the one before it. -/
def inOrder : List CompletedPart → Bool
  | p :: q :: rest => p.number ≤ q.number && inOrder (q :: rest)
  | _ => true

/-- Completes a session: its parts become the object. -/
def completeUpload (s : Store) (bucket key uploadId : String) (parts : List CompletedPart) :
    Except Failure String × Store :=
  match s.uploads.get? uploadId with
  | none => (.error (.storage (.unknownUpload uploadId)), s)
  | some upload =>
    if inOrder parts then
      match assemble upload parts with
      | .error e => (.error e, s)
      | .ok data =>
        let tag := assembledTag uploadId parts.length
        (.ok tag,
          { s with
            uploads := s.uploads.insert uploadId { upload with completed := true }
            objects := s.objects.insert (objectPath bucket key) ⟨bucket, key, data, tag, upload.contentType⟩ })
    else (.error (.storage .unsortedParts), s)

/-- Marks a session as aborted; an unknown session is passed over. -/
def abortUpload (s : Store) (uploadId : String) : Store :=
  match s.uploads.get? uploadId with
  | none => s
  | some upload => { s with uploads := s.uploads.insert uploadId { upload with aborted := true } }

/-- Stores an object. -/
def putObject (s : Store) (bucket key : String) (data : ByteArray) (contentType : Option String) : String × Store :=
  let tag := payloadTag data
  (tag, { s with objects := s.objects.insert (objectPath bucket key) ⟨bucket, key, data, tag, contentType⟩ })

/-- The first byte of a read and the one behind its last, in an object of `size` bytes. Without a length the read goes
to the end, and then it may also go without an offset. -/
def stretch (size : Nat) (offset length : Option Int) : Except Failure (Int × Int) :=
  let length := length.getD 0
  if length = 0 then .ok (offset.getD 0, size)
  else match offset with
    | some offset => .ok (offset, offset + length)
    | none => .error (.type (.notAddable Value.null.shape (Value.int length).shape))

/-- A stretch of an object's bytes, with what is known of the object. -/
def getObject (s : Store) (bucket key : String) (offset length : Option Int) :
    Except Failure (Body × ObjectInfo) :=
  match s.objects.get? (objectPath bucket key) with
  | none => .error (.storage (.unknownObject (objectPath bucket key)))
  | some object => (stretch object.data.size offset length).map fun (first, last) =>
    (.bytes (slice object.data first last), object.info key)

/-- Creates a bucket. -/
def putBucket (s : Store) (bucket acl : String) : Except Failure Unit × Store :=
  if s.buckets.contains bucket then (.error (.storage (.bucketExists bucket)), s)
  else (.ok (), { s with buckets := s.buckets.insert bucket ⟨acl, s.now⟩ })

/-- Replaces the access rule of a bucket. -/
def putBucketAcl (s : Store) (bucket acl : String) : Except Failure Unit × Store :=
  match s.buckets.get? bucket with
  | none => (.error (.storage (.unknownBucket bucket)), s)
  | some stored => (.ok (), { s with buckets := s.buckets.insert bucket { stored with acl } })

/-- Whether a bucket is there. -/
def headBucket (s : Store) (bucket : String) : Except Failure Unit :=
  if s.buckets.contains bucket then .ok () else .error (.storage (.unknownBucket bucket))

/-- Removes a bucket that holds no object; a missing bucket is passed over. -/
def deleteBucket (s : Store) (bucket : String) : Except Failure Unit × Store :=
  if s.objects.values.any (·.bucket == bucket) then (.error (.storage (.bucketNotEmpty bucket)), s)
  else (.ok (), { s with buckets := s.buckets.erase bucket })

/-- Whether a key belongs to a listing: it starts with the stem, comes after the marker, and holds no delimiter behind
the stem. -/
def isListed (marker stem delimiter key : String) : Bool :=
  stem.toList.isPrefixOf key.toList && marker < key &&
    (delimiter.isEmpty || !occursIn delimiter.toList (key.toList.drop stem.length))

/-- The keys of a bucket that belong to a listing, in ascending order. -/
def listedKeys (s : Store) (bucket marker stem delimiter : String) : List String :=
  let keys := (s.objects.values.filter (·.bucket == bucket)).map (·.key)
  (keys.filter (isListed marker stem delimiter)).mergeSort (fun a b => !decide (b < a))

/-- Whether a bucket holds an object whose key starts with a stem. -/
def holds (s : Store) (bucket stem : String) : Bool :=
  s.objects.values.any fun object => object.bucket == bucket && stem.toList.isPrefixOf object.key.toList

/-- The page size, the marker and the stem of a listing. A stem that is missing counts as empty as long as the bucket
is empty, and a missing marker as long as no key starts with the stem; the page size must be there. -/
def pageArguments (s : Store) (bucket : String) (maxKeys : Option Int) (marker stem : Option String) :
    Except Failure (Int × String × String) :=
  if stem.isNone && s.holds bucket "" then .error (.type (.notStem Value.null.shape))
  else if marker.isNone && s.holds bucket (stem.getD "") then
    .error (.type (.notOrdered ">" (Value.text "").shape Value.null.shape))
  else match maxKeys with
    | none => .error (.missingAfter ">")
    | some maxKeys => .ok (maxKeys, marker.getD "", stem.getD "")

/-- One page of a listing. -/
def listObjects (s : Store) (bucket : String) (maxKeys : Int) (marker stem delimiter : String) :
    Except Failure (Page String ObjectInfo) := do
  let keys := s.listedKeys bucket marker stem delimiter
  let pageKeys := takeBefore keys maxKeys
  let truncated := decide (maxKeys < keys.length)
  let entries ← pageKeys.mapM (s.info bucket)
  let nextMarker ←
    if truncated && !delimiter.isEmpty then
      match pageKeys.getLast? with
      | some key => .ok key
      | none => .error .emptyIndex
    else .ok ""
  return { entries, truncated, nextMarker }

/-- All buckets, ascending by name. -/
def listBuckets (s : Store) : List BucketInfo :=
  let entries := s.buckets.entries.mergeSort fun a b => !decide (b.1 < a.1)
  entries.map fun entry => ⟨entry.1, entry.2.createdAt⟩

/-- The answer to a request of an operation that is not made to fail, and the store after it. -/
def serve (s : Store) : (request : Request) → request.Outcome × Store
  | .initUpload bucket key contentType =>
    let (session, s) := s.initUpload bucket key contentType
    (.ok session, s)
  | .uploadPart _ _ uploadId number length data => s.uploadPart uploadId number length data
  | .completeUpload bucket key uploadId parts => s.completeUpload bucket key uploadId parts
  | .abortUpload _ _ uploadId => (.ok (), s.abortUpload uploadId)
  | .putObject bucket key _ data contentType =>
    let (tag, s) := s.putObject bucket key data contentType
    (.ok tag, s)
  | .getObject bucket key offset length => (s.getObject bucket key offset length, s)
  | .headObject bucket key => (s.info bucket key, s)
  | .deleteObject bucket key => (.ok (), { s with objects := s.objects.erase (objectPath bucket key) })
  | .putBucket bucket acl => s.putBucket bucket acl
  | .putBucketAcl bucket acl => s.putBucketAcl bucket acl
  | .headBucket bucket => (s.headBucket bucket, s)
  | .deleteBucket bucket => s.deleteBucket bucket
  | .listObjects bucket maxKeys marker stem delimiter =>
    let s := { s with listCount := s.listCount + 1 }
    match s.faults.listCalls.get? s.listCount with
    | some error => (.error error, s)
    | none => match s.pageArguments bucket maxKeys marker stem with
      | .error error => (.error error, s)
      | .ok (maxKeys, marker, stem) => (s.listObjects bucket maxKeys marker stem (delimiter.getD ""), s)
  | .listBuckets => (.ok s.listBuckets, s)

/-- Remembers a request and answers it, unless its operation is made to fail. -/
def perform (request : Request) (s : Store) : request.Outcome × Store :=
  let s := { s with calls := s.calls ++ [request] }
  match s.faults.methods.get? request.method.name with
  | some error => (.error error, s)
  | none => s.serve request

end Store

/-- The transport to a store in memory. -/
def transport : Transport Store where
  perform := Store.perform

end BucketClient.Memory
