import BucketClient.Client
import BucketClient.Proofs.Exchange

/-!
# What an upload is seen to do

The account of an upload is what an observer at its three sides sees: the sizes of the reads it made from its source,
its exchanges with the storage service in their order, and its result. The exchanges are those that the upload leaves
in the record of the traced transport. Since nothing in an upload depends on the state of the transport
(`create_map`), the upload over the traced transport is the upload itself (`createObject_traced`).
-/

namespace BucketClient

variable {σ τ : Type}

namespace Upload

/-- A report with the state of its transport mapped. -/
def Report.map {α : Type} (f : τ → σ) (r : Report τ α) : Report σ α :=
  ⟨r.result, r.reads, r.after.map f⟩

/-! ## Uploads over transports that answer alike -/

section Map

variable {t : Transport σ} {t' : Transport τ} {f : τ → σ} (h : t'.Follows t f) (settings : Settings)
  (bucket key : String) (contentType : Option String)

@[simp] theorem countUpload_map (mode : UploadMode) (outcome : UploadOutcome) (o : Observed τ) :
    countUpload settings mode outcome (o.map f) = (countUpload settings mode outcome o).map f :=
  Observed.map_count f _ _ _ o

@[simp] theorem countBytes_map (bytes : Nat) (o : Observed τ) :
    countBytes settings bytes (o.map f) = (countBytes settings bytes o).map f := by
  unfold countBytes
  split
  · rfl
  · exact Observed.map_count f _ _ _ o

@[simp] theorem countFailure_map (mode : UploadMode) (error : Failure) (o : Observed τ) :
    countFailure settings mode error (o.map f) = (countFailure settings mode error o).map f := by
  unfold countFailure
  split
  · rfl
  · exact countUpload_map settings mode .failed o

include h

theorem putSingle_map (pull : Pull) (o : Observed τ) :
    putSingle t settings bucket key contentType pull (o.map f) =
      (putSingle t' settings bucket key contentType pull o).map f := by
  unfold putSingle
  cases pull.piece.content with
  | error e => simp [Report.map]
  | ok data =>
    simp only [Observed.perform_map h]
    rcases o.perform t' (.putObject bucket key (some data.size) data contentType) with ⟨_ | tag, o⟩
    · simp [Report.map]
    · simp [Report.map]

theorem abort_map (session : UploadSession) (part : Option Nat) (error : Failure) (o : Observed τ) :
    abort t settings session part error (o.map f) =
      ((abort t' settings session part error o).1, (abort t' settings session part error o).2.map f) := by
  unfold abort
  rw [Observed.perform_map h]
  rcases o.perform t' (.abortUpload session.bucket session.key session.uploadId) with ⟨e | _, o⟩
  · by_cases he : e.isInterrupt = true <;> simp [he]
  · simp

theorem abortAndFail_map {α : Type} (session : UploadSession) (part : Option Nat) (error failure : Failure)
    (o : Observed τ) :
    abortAndFail (α := α) t settings session part error failure (o.map f) =
      ((abortAndFail (α := α) t' settings session part error failure o).1,
        (abortAndFail (α := α) t' settings session part error failure o).2.map f) := by
  unfold abortAndFail
  rw [abort_map h]
  rcases abort t' settings session part error o with ⟨_ | _, o⟩ <;> rfl

theorem uploadParts_map (session : UploadSession) (pulls : List Pull) (register : Register) (bytes : Nat)
    (o : Observed τ) :
    uploadParts t settings bucket key session pulls register bytes (o.map f) =
      (uploadParts t' settings bucket key session pulls register bytes o).map f := by
  induction pulls generalizing register bytes o with
  | nil => rfl
  | cons pull rest ih =>
    obtain ⟨reads, piece⟩ := pull
    cases piece with
    | finished => rfl
    | interrupted e => rfl
    | unreadable number e => simp only [uploadParts, abortAndFail_map h, Report.map]
    | part number data =>
      simp only [uploadParts, Observed.perform_map h]
      rcases o.perform t' (.uploadPart bucket key session.uploadId number (some data.size) data) with
        ⟨e | stored, o⟩
      · by_cases he : e.isInterrupt = true
        · simp [he, Report.map]
        · simp [he, abortAndFail_map h, Report.map]
      · cases hr : register.add ⟨number, stored.tag⟩ with
        | error e => simp [hr, Report.map]
        | ok register => simp [hr, ih, Report.map]

theorem complete_map (session : UploadSession) (register : Register) (bytes : Nat) (o : Observed τ) :
    complete t settings bucket key session register bytes (o.map f) =
      ((complete t' settings bucket key session register bytes o).1,
        (complete t' settings bucket key session register bytes o).2.map f) := by
  unfold complete
  rw [Observed.perform_map h]
  rcases o.perform t' (.completeUpload bucket key session.uploadId register.parts) with ⟨e | tag, o⟩
  · by_cases he : e.isInterrupt = true
    · simp [he]
    · simp [he, abortAndFail_map h]
  · simp

theorem putParts_map (partSize : Int) (source : Source) (o : Observed τ) :
    putParts t settings bucket key contentType partSize source (o.map f) =
      (putParts t' settings bucket key contentType partSize source o).map f := by
  unfold putParts
  rw [Observed.perform_map h]
  rcases o.perform t' (.initUpload bucket key contentType) with ⟨e | session, o⟩
  · simp [Report.map]
  · cases splitParts (some partSize) source with
    | error e => rfl
    | ok pulls =>
      simp only [uploadParts_map h]
      rcases uploadParts t' settings bucket key session pulls .empty 0 o with ⟨e | ⟨register, bytes⟩, reads, o⟩
      · rfl
      · simp only [Report.map, complete_map h]

/-- An upload depends on its transport only by the answers that it gets. -/
theorem create_map (partSize : Option Int) (size : Option Int) (source : Source) (o : Observed τ) :
    create t settings partSize bucket key size source contentType (o.map f) =
      (create t' settings partSize bucket key size source contentType o).map f := by
  unfold create
  simp only [putSingle_map h, putParts_map h]
  split
  · rfl
  · rfl
  · split <;> rfl

end Map

/-! ## Accounts -/

/-- What is seen of an upload: the sizes of its reads, its exchanges with the service, and its result. -/
structure Account where
  reads : List Nat
  exchanges : List Exchange
  result : Except Failure String

end Upload

namespace Client

/-- The client over the traced transport. -/
def traced (client : Client σ) : Client (σ × List Exchange) :=
  ⟨client.transport.traced, client.settings, client.partSize⟩

variable (client : Client σ) (bucket key : String) (size : Option Int) (source : Source)
  (contentType : Option String) (o : Observed σ)

/-- The account of the creation of an object. -/
def account : Upload.Account where
  reads := (client.createObject bucket key size source contentType o).reads
  exchanges := (client.traced.createObject bucket key size source contentType o.traced).after.transport.2
  result := (client.createObject bucket key size source contentType o).result

theorem result_account : (client.account bucket key size source contentType o).result =
    (client.createObject bucket key size source contentType o).result := by
  rw [account]

/-- An object is created over the traced transport as it is over the transport itself. -/
theorem createObject_traced : client.createObject bucket key size source contentType o =
    (client.traced.createObject bucket key size source contentType o.traced).map Prod.fst :=
  Upload.create_map client.transport.traced_follows client.settings bucket key contentType client.partSize size source
    o.traced

end Client

end BucketClient
