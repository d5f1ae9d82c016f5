import BucketClient.Dictionary

/-!
# Counters

What the client counts: uploads by way and outcome, stored parts, accepted bytes, and fetched listing pages.

Which counter goes up, when, and by how much is decided by the client. Here the reading of a counter is the exact sum of
these amounts; a package that keeps its readings as floating point numbers rounds them when they have become large.
-/

namespace BucketClient

/-- The two ways of an upload: in one request, or in parts. -/
inductive UploadMode where
  | single
  | multipart
  deriving DecidableEq, Repr

/-- How an upload ended. -/
inductive UploadOutcome where
  | success
  | aborted
  | failed
  deriving DecidableEq, Repr

/-- What a listing lists. -/
inductive Listed where
  | objects
  | buckets
  deriving DecidableEq, Repr

/-- A counter. -/
inductive Counter where
  | uploads (mode : UploadMode) (outcome : UploadOutcome)
  | parts
  | bytes
  | pages (listed : Listed)
  deriving DecidableEq, Repr

/-- The name of a way. -/
def UploadMode.name : UploadMode → String
  | .single => "single"
  | .multipart => "multipart"

/-- The name of an outcome. -/
def UploadOutcome.name : UploadOutcome → String
  | .success => "success"
  | .aborted => "aborted"
  | .failed => "failed"

/-- The name of what is listed. -/
def Listed.name : Listed → String
  | .objects => "objects"
  | .buckets => "buckets"

namespace Counter

/-- The name of a counter, with its labels. -/
def name : Counter → String
  | .uploads mode outcome => "objstore_uploads_total," ++ mode.name ++ "," ++ outcome.name
  | .parts => "objstore_upload_parts_total"
  | .bytes => "objstore_upload_bytes_total"
  | .pages listed => "objstore_list_pages_total," ++ listed.name

/-- All counters. -/
def all : List Counter :=
  [.uploads .single .success, .uploads .single .aborted, .uploads .single .failed, .uploads .multipart .success,
    .uploads .multipart .aborted, .uploads .multipart .failed, .parts, .bytes, .pages .objects, .pages .buckets]

end Counter

/-- The readings of the counters; a counter without a reading stands at zero. -/
structure Metrics where
  readings : Dictionary Counter Nat := .empty

namespace Metrics

/-- The reading of a counter. -/
def count (m : Metrics) (counter : Counter) : Nat :=
  (m.readings.get? counter).getD 0

/-- The readings after a counter has gone up by an amount. -/
def add (m : Metrics) (counter : Counter) (amount : Nat) : Metrics :=
  ⟨m.readings.insert counter (m.count counter + amount)⟩

@[simp] theorem count_add (m : Metrics) (counter other : Counter) (amount : Nat) :
    (m.add counter amount).count other = if other = counter then m.count counter + amount else m.count other := by
  by_cases h : other = counter <;> simp [count, add, Dictionary.get?_insert, h]

end Metrics

end BucketClient
