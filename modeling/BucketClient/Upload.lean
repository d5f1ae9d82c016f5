import BucketClient.Argument
import BucketClient.Observed
import BucketClient.Part.Split
import BucketClient.Settings

/-!
# Uploads

An object is uploaded in one of two ways, chosen by the size that is declared for it. Below the part size its first
part is stored with one request (`putSingle`). From the part size on, a session is opened, the parts are uploaded in
turn, and the session is completed (`putParts`). A session that fails in a part or in its completion is aborted; a
failure to abort is logged and goes no further.

An interrupt is no failure of the upload: it passes through, and nothing is aborted, logged or counted on its way.
-/

namespace BucketClient

/-- The part size that uploads use unless told otherwise: the least that a service takes for a part but the last. -/
def defaultPartSize : Int := 5 * 1024 * 1024

namespace Upload

variable {σ : Type}

/-- What an upload came to: its result, the sizes of the reads it made, and the state after it. -/
structure Report (σ α : Type) where
  result : Except Failure α
  reads : List Nat
  after : Observed σ

/-- The name under which uploads log. -/
def logger : String := "objstore.upload"

/-- The log record of an object that was created in one request. -/
def singleRecord (bucket key : String) (bytes : Nat) : Log.Record where
  logger := logger
  level := Log.Level.info.number
  template := "object_created mode=single bucket=%s key=%s bytes=%d"
  args := [.text bucket, .text key, .int bytes]

/-- The log record of an object that was created in parts. -/
def multipartRecord (bucket key : String) (parts bytes : Nat) : Log.Record where
  logger := logger
  level := Log.Level.info.number
  template := "object_created mode=multipart bucket=%s key=%s parts=%d bytes=%d"
  args := [.text bucket, .text key, .int parts, .int bytes]

/-- The number of the part that a session failed in, or null. -/
def partValue (part : Option Nat) : Value :=
  part.elim .null fun n => .int n

/-- The additions to the log record of a session that has failed. -/
def abortDetails (session : UploadSession) (part : Option Nat) (error : Failure) : List (String × Value) :=
  [("upload_id", .text session.uploadId), ("part_number", partValue part), ("cause", .text error.exactText)]

/-- The log record of an aborted session. -/
def abortedRecord (session : UploadSession) (part : Option Nat) (error : Failure) : Log.Record where
  logger := logger
  level := Log.Level.warning.number
  template := "multipart_upload_aborted upload_id=%s bucket=%s key=%s part_number=%s"
  args := [.text session.uploadId, .text session.bucket, .text session.key,
    part.elim (.text "-") fun n => .int n]
  extra := some (.record (abortDetails session part error))

/-- The log record of a session that could not be aborted. -/
def abortFailedRecord (session : UploadSession) (part : Option Nat) (error abortError : Failure) : Log.Record where
  logger := logger
  level := Log.Level.warning.number
  template := "multipart_abort_failed upload_id=%s bucket=%s key=%s error=%s"
  args := [.text session.uploadId, .text session.bucket, .text session.key, .text abortError.message]
  extra := some (.record (abortDetails session part error ++ [("abort_error", .text abortError.exactText)]))

/-- Counts an upload. -/
def countUpload (settings : Settings) (mode : UploadMode) (outcome : UploadOutcome) (o : Observed σ) : Observed σ :=
  o.count settings.counts (.uploads mode outcome) 1

/-- Counts the bytes of a successful upload. -/
def countBytes (settings : Settings) (bytes : Nat) (o : Observed σ) : Observed σ :=
  if bytes = 0 then o else o.count settings.counts .bytes bytes

section

variable (t : Transport σ) (settings : Settings) (bucket key : String) (contentType : Option String)

/-- Counts a failed upload, unless it failed by an interrupt. -/
def countFailure (mode : UploadMode) (error : Failure) (o : Observed σ) : Observed σ :=
  if error.isInterrupt then o else countUpload settings mode .failed o

/-- Stores what came of asking for the first part of a source with one request. -/
def putSingle (pull : Pull) (o : Observed σ) : Report σ String :=
  match pull.piece.content with
  | .error e => ⟨.error e, pull.reads, countFailure settings .single e o⟩
  | .ok data => match o.perform t (.putObject bucket key (some data.size) data contentType) with
    | (.error e, o) => ⟨.error e, pull.reads, countFailure settings .single e o⟩
    | (.ok tag, o) =>
      let o := countBytes settings data.size (countUpload settings .single .success o)
      ⟨.ok tag, pull.reads, o.log (singleRecord bucket key data.size)⟩

/-- Aborts a session that has failed, in a part or in its completion; an interrupt of the abortion is returned. -/
def abort (session : UploadSession) (part : Option Nat) (error : Failure) (o : Observed σ) :
    Except Failure Unit × Observed σ :=
  match o.perform t (.abortUpload session.bucket session.key session.uploadId) with
  | (.ok (), o) => (.ok (), countUpload settings .multipart .aborted (o.log (abortedRecord session part error)))
  | (.error e, o) =>
    if e.isInterrupt then (.error e, o)
    else (.ok (), countUpload settings .multipart .aborted (o.log (abortFailedRecord session part error e)))

/-- Aborts a session and then fails with `failure`, unless the abortion is interrupted. -/
def abortAndFail {α : Type} (session : UploadSession) (part : Option Nat) (error failure : Failure)
    (o : Observed σ) : Except Failure α × Observed σ :=
  match abort t settings session part error o with
  | (.ok (), o) => (.error failure, o)
  | (.error interrupt, o) => (.error interrupt, o)

/-- Uploads the parts of a source in turn; `register` and `bytes` are what has been stored so far. -/
def uploadParts (session : UploadSession) :
    List Pull → Register → Nat → Observed σ → Report σ (Register × Nat)
  | [], register, bytes, o => ⟨.ok (register, bytes), [], o⟩
  | ⟨reads, .finished⟩ :: _, register, bytes, o => ⟨.ok (register, bytes), reads, o⟩
  | ⟨reads, .interrupted e⟩ :: _, _, _, o => ⟨.error e, reads, o⟩
  | ⟨reads, .unreadable number e⟩ :: _, _, _, o =>
    let (result, o) := abortAndFail t settings session (some number) e e o
    ⟨result, reads, o⟩
  | ⟨reads, .part number data⟩ :: rest, register, bytes, o =>
    match o.perform t (.uploadPart bucket key session.uploadId number (some data.size) data) with
    | (.error e, o) =>
      if e.isInterrupt then ⟨.error e, reads, o⟩
      else
        let failure := .incompleteUpload bucket key session.uploadId (some number) e
        let (result, o) := abortAndFail t settings session (some number) e failure o
        ⟨result, reads, o⟩
    | (.ok stored, o) =>
      match register.add ⟨number, stored.tag⟩ with
      | .error e => ⟨.error e, reads, o⟩
      | .ok register =>
        let report := uploadParts session rest register (bytes + data.size) (o.count settings.counts .parts 1)
        { report with reads := reads ++ report.reads }

/-- Completes a session with its stored parts. -/
def complete (session : UploadSession) (register : Register) (bytes : Nat) (o : Observed σ) :
    Except Failure String × Observed σ :=
  match o.perform t (.completeUpload bucket key session.uploadId register.parts) with
  | (.ok tag, o) =>
    let o := countBytes settings bytes (countUpload settings .multipart .success o)
    (.ok tag, o.log (multipartRecord bucket key register.size bytes))
  | (.error e, o) =>
    if e.isInterrupt then (.error e, o)
    else abortAndFail t settings session none e (.incompleteUpload bucket key session.uploadId none e) o

/-- Uploads a source in parts. -/
def putParts (partSize : Int) (source : Source) (o : Observed σ) : Report σ String :=
  match o.perform t (.initUpload bucket key contentType) with
  | (.error e, o) => ⟨.error e, [], countFailure settings .multipart e o⟩
  | (.ok session, o) =>
    match splitParts (some partSize) source with
    | .error e => ⟨.error e, [], o⟩
    | .ok pulls =>
      match uploadParts t settings bucket key session pulls .empty 0 o with
      | ⟨.error e, reads, o⟩ => ⟨.error e, reads, o⟩
      | ⟨.ok (register, bytes), reads, o⟩ =>
        let (result, o) := complete t settings bucket key session register bytes o
        ⟨result, reads, o⟩

end

/-- Creates an object from a source of a declared size; without a part size there is no way to do so. -/
def create (t : Transport σ) (settings : Settings) (partSize : Option Int) (bucket key : String) (size : Option Int)
    (source : Source) (contentType : Option String) (o : Observed σ) : Report σ String :=
  let checked : Except Failure (String × String × Int) := do
    let bucket ← Argument.bucket bucket
    let key ← Argument.key key
    let size ← Argument.size size
    return (bucket, key, size)
  match checked, partSize with
  | .error e, _ => ⟨.error e, [], o⟩
  | .ok _, none => ⟨.error (.missingAfter "<"), [], o⟩
  | .ok (bucket, key, size), some partSize =>
    if size < partSize then
      putSingle t settings bucket key contentType (source.firstPull partSize.toNat) o
    else putParts t settings bucket key contentType partSize source o

end Upload

end BucketClient
