/-!
# The operations of a storage service

The fourteen operations that a transport performs, each with the name under which the transport knows it, the name
of the wire call that carries it out, and the words that say what failed when it fails.
-/

namespace BucketClient

/-- An operation of a storage service. -/
inductive Method where
  | initUpload
  | uploadPart
  | completeUpload
  | abortUpload
  | putObject
  | getObject
  | headObject
  | deleteObject
  | putBucket
  | putBucketAcl
  | headBucket
  | deleteBucket
  | listObjects
  | listBuckets
  deriving DecidableEq, Repr

namespace Method

/-- All operations. -/
def all : List Method :=
  [.initUpload, .uploadPart, .completeUpload, .abortUpload, .putObject, .getObject, .headObject, .deleteObject,
    .putBucket, .putBucketAcl, .headBucket, .deleteBucket, .listObjects, .listBuckets]

/-- The name of an operation. -/
def name : Method → String
  | .initUpload => "init_multipart_upload"
  | .uploadPart => "upload_part"
  | .completeUpload => "complete_multipart_upload"
  | .abortUpload => "abort_multipart_upload"
  | .putObject => "put_object"
  | .getObject => "get_object"
  | .headObject => "head_object"
  | .deleteObject => "delete_object"
  | .putBucket => "put_bucket"
  | .putBucketAcl => "put_bucket_acl"
  | .headBucket => "head_bucket"
  | .deleteBucket => "delete_bucket"
  | .listObjects => "list_objects"
  | .listBuckets => "list_buckets"

/-- The name of the wire call for an operation; two of them go by another name on the wire. -/
def wireName : Method → String
  | .initUpload => "create_multipart_upload"
  | .putBucket => "create_bucket"
  | m => m.name

/-- The operation of a name. -/
def ofName? (s : String) : Option Method :=
  all.find? fun m => m.name == s

/-- The operation of a wire call's name. -/
def ofWireName? (s : String) : Option Method :=
  all.find? fun m => m.wireName == s

/-- What an operation is for, as the message of its failure names it. -/
def purpose : Method → String
  | .initUpload => "create multipart upload"
  | .uploadPart => "upload part"
  | .completeUpload => "complete multipart upload"
  | .abortUpload => "abort multipart upload"
  | .putObject => "put object"
  | .getObject => "get object"
  | .headObject => "get object metadata"
  | .deleteObject => "delete object"
  | .putBucket => "create bucket"
  | .putBucketAcl => "set bucket ACL"
  | .headBucket => "get bucket metadata"
  | .deleteBucket => "delete bucket"
  | .listObjects => "list objects"
  | .listBuckets => "list buckets"

end Method

end BucketClient
