import BucketClient.Part.Register

/-!
# Requests to a storage service

What the client asks of a storage service, as data. Each request has the type of its answer (`Request.Answer`), so a
transport is one function from requests to answers over a state of its own, and a record of what was asked is a list
of requests. A transport answers a request or fails it. The client makes complete requests; in one that comes from
elsewhere a length, an offset or an argument of a listing may be missing, and its meaning is up to the transport.
-/

namespace BucketClient

/-- A session of part uploads: the service's name for it, and the object it is for. -/
structure UploadSession where
  uploadId : String
  bucket : String
  key : String
  deriving DecidableEq, Repr

/-- What is known of a stored object; a property that the service did not tell is null. -/
structure ObjectInfo where
  key : String
  size : Int
  tag : Value := .null
  contentType : Value := .null
  lastModified : Value := .null
  deriving Repr

/-- What is known of a bucket. -/
structure BucketInfo where
  name : String
  createdAt : Value := .null
  deriving Repr

/-- The body that comes with a read: bytes that can be read from it, or what a service gave in its place. -/
inductive Body where
  | bytes (data : ByteArray)
  | other (v : Value)

instance : Coe ByteArray Body := ⟨.bytes⟩

/-- One page of a listing: its entries, whether more follow, and where the service says they start. -/
structure Page (μ α : Type) where
  entries : List α := []
  truncated : Bool := false
  nextMarker : μ

/-- A request to a storage service. -/
inductive Request where
  | initUpload (bucket key : String) (contentType : Option String)
  | uploadPart (bucket key uploadId : String) (number : Int) (length : Option Int) (data : ByteArray)
  | completeUpload (bucket key uploadId : String) (parts : List CompletedPart)
  | abortUpload (bucket key uploadId : String)
  | putObject (bucket key : String) (length : Option Int) (data : ByteArray) (contentType : Option String)
  | getObject (bucket key : String) (offset length : Option Int)
  | headObject (bucket key : String)
  | deleteObject (bucket key : String)
  | putBucket (bucket acl : String)
  | putBucketAcl (bucket acl : String)
  | headBucket (bucket : String)
  | deleteBucket (bucket : String)
  | listObjects (bucket : String) (maxKeys : Option Int) (marker stem delimiter : Option String)
  | listBuckets

namespace Request

/-- The operation that a request asks for. -/
def method : Request → Method
  | .initUpload .. => .initUpload
  | .uploadPart .. => .uploadPart
  | .completeUpload .. => .completeUpload
  | .abortUpload .. => .abortUpload
  | .putObject .. => .putObject
  | .getObject .. => .getObject
  | .headObject .. => .headObject
  | .deleteObject .. => .deleteObject
  | .putBucket .. => .putBucket
  | .putBucketAcl .. => .putBucketAcl
  | .headBucket .. => .headBucket
  | .deleteBucket .. => .deleteBucket
  | .listObjects .. => .listObjects
  | .listBuckets => .listBuckets

/-- The type of the answer to a request. -/
@[reducible] def Answer : Request → Type
  | .initUpload .. => UploadSession
  | .uploadPart .. => CompletedPart
  | .completeUpload .. => String
  | .abortUpload .. => Unit
  | .putObject .. => String
  | .getObject .. => Body × ObjectInfo
  | .headObject .. => ObjectInfo
  | .deleteObject .. => Unit
  | .putBucket .. => Unit
  | .putBucketAcl .. => Unit
  | .headBucket .. => Unit
  | .deleteBucket .. => Unit
  | .listObjects .. => Page String ObjectInfo
  | .listBuckets => List BucketInfo

/-- How a request ended: answered or failed. -/
abbrev Outcome (request : Request) : Type :=
  Except Failure request.Answer

end Request

/-- A way to perform requests, over a state `σ`. -/
structure Transport (σ : Type) where
  perform : (request : Request) → σ → request.Outcome × σ

end BucketClient
