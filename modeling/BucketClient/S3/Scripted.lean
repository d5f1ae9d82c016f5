import BucketClient.S3.Call

/-!
# A scripted S3 service

A service that plays back given outcomes, each to the next call of its operation, and remembers every call made to it.
When no outcome is left for an operation, it responds as a service in good order: with an identifier for a session,
tags for what is stored, and an empty body for what is read.
-/

namespace BucketClient.S3

/-- The state of a scripted service: the outcomes that are left, and the calls so far. -/
structure Scripted where
  outcomes : List (Method × Except Failure Response) := []
  calls : List Call := []

namespace Scripted

/-- The first outcome of an operation, and the outcomes without it. -/
def pick (method : Method) : List (Method × Except Failure Response) →
    Option (Except Failure Response × List (Method × Except Failure Response))
  | [] => none
  | outcome :: rest =>
    if outcome.1 = method then some (outcome.2, rest)
    else (pick method rest).map fun (picked, rest) => (picked, outcome :: rest)

/-- The response to the last of these calls when no outcome is left for it. -/
def standard (calls : List Call) : Call → Response
  | .createMultipartUpload .. =>
    let n := calls.countP fun call => call.method == .initUpload
    { fields := [("UploadId", .text ("upload-" ++ toString n))] }
  | .uploadPart _ _ _ number _ _ => { fields := [("ETag", .text ("etag-" ++ toString number))] }
  | .completeMultipartUpload .. => { fields := [("ETag", .text "complete-etag")] }
  | .putObject .. => { fields := [("ETag", .text "put-etag")] }
  | .getObject .. => { body := some ByteArray.empty }
  | _ => {}

/-- Further outcomes to be played back. -/
def append (s : Scripted) (outcomes : List (Method × Except Failure Response)) : Scripted :=
  { s with outcomes := s.outcomes ++ outcomes }

end Scripted

/-- The service that plays back the outcomes of its state. -/
def scripted : Service Scripted where
  respond := fun call s =>
    let calls := s.calls ++ [call]
    match Scripted.pick call.method s.outcomes with
    | some (outcome, outcomes) => (outcome, ⟨outcomes, calls⟩)
    | none => (.ok (Scripted.standard calls call), ⟨s.outcomes, calls⟩)

end BucketClient.S3
