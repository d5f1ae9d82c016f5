import BucketClient.Listing.Service
import BucketClient.S3.Connection
import BucketClient.S3.Transport
import BucketClient.Upload

/-!
# The client

All operations on objects and buckets over one transport. Each operation checks its arguments first; when they pass,
it makes the request for them, with the bucket name trimmed. The listings of a client are walks, whose feeds make
their requests as they are read.
-/

namespace BucketClient

/-- A client: the transport it uses, its settings, and the part size of its uploads. -/
structure Client (σ : Type) where
  transport : Transport σ
  settings : Settings
  partSize : Option Int := some defaultPartSize

/-- A client of an S3 service, with the connection that is opened for it. -/
def Client.connect {τ : Type} (service : S3.Service τ) (installed : Bool) (platform : Platform)
    (settings : Settings) : Except Failure (S3.Connection × Client τ) :=
  (S3.connect installed platform settings).map fun connection =>
    (connection, { transport := S3.transport settings service, settings := settings })

/-- What an operation returns, with the state after it. -/
abbrev Result (σ α : Type) : Type :=
  Except Failure α × Observed σ

namespace Client

variable {σ : Type} (client : Client σ)

/-- Makes a request for a bucket whose name is checked first. -/
def onBucket {α : Type} (bucket : String) (o : Observed σ) (act : String → Result σ α) : Result σ α :=
  match Argument.bucket bucket with
  | .ok bucket => act bucket
  | .error e => (.error e, o)

/-- Makes a request for an object whose bucket name and key are checked first. -/
def onObject {α : Type} (bucket key : String) (o : Observed σ) (act : String → String → Result σ α) : Result σ α :=
  onBucket bucket o fun bucket => match Argument.key key with
    | .ok key => act bucket key
    | .error e => (.error e, o)

/-! ## Objects -/

/-- Creates an object from a source of a declared size. -/
def createObject (bucket key : String) (size : Option Int) (source : Source) (contentType : Option String)
    (o : Observed σ) : Upload.Report σ String :=
  Upload.create client.transport client.settings client.partSize bucket key size source contentType o

/-- Reads an object from an offset on, up to a length unless it is zero, with what is known of the object. -/
def getObject (bucket key : String) (offset length : Option Int) (o : Observed σ) :
    Result σ (Body × ObjectInfo) :=
  onObject bucket key o fun bucket key => match Argument.range offset length with
    | .ok (offset, length) => o.perform client.transport (.getObject bucket key (some offset) (some length))
    | .error e => (.error e, o)

/-- What is known of an object. -/
def statObject (bucket key : String) (o : Observed σ) : Result σ ObjectInfo :=
  onObject bucket key o fun bucket key => o.perform client.transport (.headObject bucket key)

/-- Removes an object. -/
def deleteObject (bucket key : String) (o : Observed σ) : Result σ Unit :=
  onObject bucket key o fun bucket key => o.perform client.transport (.deleteObject bucket key)

/-! ## Buckets -/

/-- Makes a request for a bucket and an access rule, which are checked first. -/
def onBucketAcl (bucket : String) (acl : Option String) (o : Observed σ) (act : String → Acl → Result σ Unit) :
    Result σ Unit :=
  onBucket bucket o fun bucket => match Argument.acl acl with
    | .ok acl => act bucket acl
    | .error e => (.error e, o)

/-- Creates a bucket with an access rule. -/
def createBucket (bucket : String) (acl : Option String) (o : Observed σ) : Result σ Unit :=
  onBucketAcl bucket acl o fun bucket acl => o.perform client.transport (.putBucket bucket acl.name)

/-- Replaces the access rule of a bucket. -/
def setBucketAcl (bucket : String) (acl : Option String) (o : Observed σ) : Result σ Unit :=
  onBucketAcl bucket acl o fun bucket acl => o.perform client.transport (.putBucketAcl bucket acl.name)

/-- Succeeds if a bucket is there and accessible. -/
def statBucket (bucket : String) (o : Observed σ) : Result σ Unit :=
  onBucket bucket o fun bucket => o.perform client.transport (.headBucket bucket)

/-- Removes a bucket. -/
def deleteBucket (bucket : String) (o : Observed σ) : Result σ Unit :=
  onBucket bucket o fun bucket => o.perform client.transport (.deleteBucket bucket)

/-! ## Listings -/

/-- The walk through the objects of a bucket whose keys start with a stem. -/
def listObjects (bucket stem : String) (recursive : Bool) : Except Failure (Walk σ String ObjectInfo) :=
  (Argument.bucket bucket).map fun bucket =>
    Listing.objects client.transport client.settings bucket stem recursive

/-- The walk through the buckets of the caller. -/
def listBuckets : Walk σ Unit BucketInfo :=
  Listing.buckets client.transport client.settings

end Client

end BucketClient
