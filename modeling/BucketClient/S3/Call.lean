import BucketClient.Request

/-!
# Wire calls

What goes over the wire to an S3 service: one call per request, with named parameters. A parameter that a call does
not need is left out, not sent empty.
-/

namespace BucketClient.S3

/-- A range of bytes to be read: up to a last position, or up to the end. -/
inductive ByteRange where
  | between (first last : Int)
  | suffixFrom (first : Int)
  deriving DecidableEq, Repr

/-- Refuses a range with a position that has too many digits to be written. -/
def ByteRange.check : ByteRange → Except Text.NumeralFault Unit
  | .between first last => do
    Text.checkWritable first
    Text.checkWritable last
  | .suffixFrom first => Text.checkWritable first

/-- The text of a range. -/
def ByteRange.text : ByteRange → String
  | .between first last => "bytes=" ++ toString first ++ "-" ++ toString last
  | .suffixFrom first => "bytes=" ++ toString first ++ "-"

/-- The range for an offset and a length: a length of zero reads to the end, and all of it needs no range. -/
def ByteRange.of? (offset length : Int) : Option ByteRange :=
  if 0 < length then some (.between offset (offset + length - 1))
  else if 0 < offset then some (.suffixFrom offset)
  else none

/-- A call to an S3 service. -/
inductive Call where
  | createMultipartUpload (bucket key : String) (contentType : Value)
  | uploadPart (bucket key uploadId : String) (number length : Int) (body : ByteArray)
  | completeMultipartUpload (bucket key uploadId : String) (parts : List CompletedPart)
  | abortMultipartUpload (bucket key uploadId : String)
  | putObject (bucket key : String) (length : Int) (contentType : Value) (body : ByteArray)
  | getObject (bucket key : String) (range : Option ByteRange)
  | headObject (bucket key : String)
  | deleteObject (bucket key : String)
  | createBucket (bucket acl : String) (location : Option String)
  | putBucketAcl (bucket acl : String)
  | headBucket (bucket : String)
  | deleteBucket (bucket : String)
  | listObjects (bucket : String) (maxKeys : Int) (stem delimiter : String) (marker : Option String)
  | listBuckets

/-- The value of a parameter. -/
inductive Parameter where
  | value (v : Value)
  | bytes (data : ByteArray)

namespace Call

/-- The operation of a call. -/
def method : Call → Method
  | .createMultipartUpload .. => .initUpload
  | .uploadPart .. => .uploadPart
  | .completeMultipartUpload .. => .completeUpload
  | .abortMultipartUpload .. => .abortUpload
  | .putObject .. => .putObject
  | .getObject .. => .getObject
  | .headObject .. => .headObject
  | .deleteObject .. => .deleteObject
  | .createBucket .. => .putBucket
  | .putBucketAcl .. => .putBucketAcl
  | .headBucket .. => .headBucket
  | .deleteBucket .. => .deleteBucket
  | .listObjects .. => .listObjects
  | .listBuckets => .listBuckets

/-- A parameter that is a text. -/
def textParameter (name text : String) : String × Parameter :=
  (name, .value (.text text))

/-- A parameter that is a number. -/
def numberParameter (name : String) (n : Int) : String × Parameter :=
  (name, .value (.int n))

/-- The parameters that name an object. -/
def objectParameters (bucket key : String) : List (String × Parameter) :=
  [textParameter "Bucket" bucket, textParameter "Key" key]

/-- The list of the parts of a session. -/
def partList (parts : List CompletedPart) : Value :=
  .record [("Parts", .list (parts.map fun part =>
    .record [("ETag", .text part.tag), ("PartNumber", .int part.number)]))]

/-- The parameters of a call, by name. -/
def parameters : Call → List (String × Parameter)
  | .createMultipartUpload bucket key contentType =>
    objectParameters bucket key ++ [("ContentType", .value contentType)]
  | .uploadPart bucket key uploadId number length body =>
    objectParameters bucket key ++
      [textParameter "UploadId" uploadId, numberParameter "PartNumber" number,
        numberParameter "ContentLength" length, ("Body", .bytes body)]
  | .completeMultipartUpload bucket key uploadId parts =>
    objectParameters bucket key ++
      [textParameter "UploadId" uploadId, ("MultipartUpload", .value (partList parts))]
  | .abortMultipartUpload bucket key uploadId =>
    objectParameters bucket key ++ [textParameter "UploadId" uploadId]
  | .putObject bucket key length contentType body =>
    objectParameters bucket key ++
      [numberParameter "ContentLength" length, ("ContentType", .value contentType), ("Body", .bytes body)]
  | .getObject bucket key range =>
    objectParameters bucket key ++ (range.map fun r => textParameter "Range" r.text).toList
  | .headObject bucket key | .deleteObject bucket key => objectParameters bucket key
  | .createBucket bucket acl location =>
    [textParameter "Bucket" bucket, textParameter "ACL" acl] ++
      (location.map fun region =>
        ("CreateBucketConfiguration", .value (.record [("LocationConstraint", .text region)]))).toList
  | .putBucketAcl bucket acl => [textParameter "Bucket" bucket, textParameter "ACL" acl]
  | .headBucket bucket | .deleteBucket bucket => [textParameter "Bucket" bucket]
  | .listObjects bucket maxKeys stem delimiter marker =>
    [textParameter "Bucket" bucket, numberParameter "MaxKeys" maxKeys, textParameter "Prefix" stem,
      textParameter "Delimiter" delimiter] ++ (marker.map (textParameter "Marker")).toList
  | .listBuckets => []

end Call

/-- The response to a call: its body if it has one, and its other fields. -/
structure Response where
  fields : List (String × Value) := []
  body : Option Body := none

/-- A service that responds to calls or fails them, over a state `τ`. -/
structure Service (τ : Type) where
  respond : Call → τ → Except Failure Response × τ

end BucketClient.S3
