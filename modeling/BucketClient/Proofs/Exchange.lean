import BucketClient.Observed

/-!
# Exchanges with a storage service

What passes between a client and a storage service, as data: requests, each with how it ended.

* `Transport.Runs`: a list of exchanges leads a transport from one state to another; such runs can be joined and cut
  (`runs_append`).
* `Transport.traced`: a transport that keeps the list of its exchanges beside its state. Its record is what it has run
  through (`runs_of_traced`), and it answers like the transport itself (`traced_follows`).
-/

namespace BucketClient

/-- A request with how it ended. -/
structure Exchange where
  request : Request
  outcome : request.Outcome

namespace Exchange

/-- Whether the answer to the request was an interrupt. -/
def interrupted (x : Exchange) : Bool :=
  match x.outcome with
  | .error e => e.isInterrupt
  | .ok _ => false

/-- The session that the request opened. -/
def opened : Exchange → Option UploadSession
  | ⟨.initUpload .., .ok session⟩ => some session
  | _ => none

/-- Whether the request completed this session. -/
def completes (session : UploadSession) : Exchange → Bool
  | ⟨.completeUpload _ _ uploadId _, .ok _⟩ => uploadId == session.uploadId
  | _ => false

/-- Whether the request was to abort this session, however it ended. -/
def aborts (session : UploadSession) : Exchange → Bool
  | ⟨.abortUpload bucket key uploadId, _⟩ => ⟨uploadId, bucket, key⟩ == session
  | _ => false

end Exchange

variable {σ τ : Type}

namespace Transport

/-! ## Runs -/

/-- The exchanges lead the transport from one state to another. -/
def Runs (t : Transport σ) : σ → List Exchange → σ → Prop
  | s, [], s' => s' = s
  | s, x :: xs, s' => (t.perform x.request s).1 = x.outcome ∧ t.Runs (t.perform x.request s).2 xs s'

variable {t : Transport σ}

theorem runs_append {xs ys : List Exchange} {s s' : σ} :
    t.Runs s (xs ++ ys) s' ↔ ∃ m, t.Runs s xs m ∧ t.Runs m ys s' := by
  induction xs generalizing s with
  | nil => simp [Runs]
  | cons x xs ih =>
    rw [List.cons_append]
    constructor
    · rintro ⟨hx, h⟩
      obtain ⟨m, hm, hs⟩ := ih.1 h
      exact ⟨m, ⟨hx, hm⟩, hs⟩
    · rintro ⟨m, ⟨hx, hm⟩, hs⟩
      exact ⟨hx, ih.2 ⟨m, hm, hs⟩⟩

theorem Runs.trans {xs ys : List Exchange} {s m s' : σ} (h : t.Runs s xs m) (h' : t.Runs m ys s') :
    t.Runs s (xs ++ ys) s' :=
  runs_append.2 ⟨m, h, h'⟩

/-- What every request keeps holds in the state in which an exchange of a run took place. -/
theorem Runs.exists_of_mem {P : σ → Prop} (hkeep : ∀ request s, P s → P (t.perform request s).2) {xs : List Exchange}
    {s s' : σ} (h : t.Runs s xs s') (hs : P s) {x : Exchange} (hx : x ∈ xs) :
    ∃ m, P m ∧ (t.perform x.request m).1 = x.outcome := by
  induction xs generalizing s with
  | nil => cases hx
  | cons y ys ih =>
    obtain ⟨hy, h⟩ := h
    rcases List.mem_cons.1 hx with rfl | hx
    · exact ⟨s, hs, hy⟩
    · exact ih h (hkeep y.request s hs) hx

/-! ## The record of a transport -/

/-- The transport that keeps the list of its exchanges beside its state. -/
def traced (t : Transport σ) : Transport (σ × List Exchange) where
  perform request s := ((t.perform request s.1).1, (t.perform request s.1).2,
    s.2 ++ [⟨request, (t.perform request s.1).1⟩])

/-- A run of the traced transport is a run of the transport, and has been added to the record. -/
theorem runs_of_traced {xs : List Exchange} {s s' : σ × List Exchange} (h : t.traced.Runs s xs s') :
    t.Runs s.1 xs s'.1 ∧ s'.2 = s.2 ++ xs := by
  induction xs generalizing s with
  | nil => rw [show s' = s from h]; exact ⟨rfl, (List.append_nil _).symm⟩
  | cons x xs ih =>
    obtain ⟨hx, h⟩ := h
    obtain ⟨hr, hs⟩ := ih h
    have hx' : (t.perform x.request s.1).1 = x.outcome := hx
    refine ⟨⟨hx', hr⟩, ?_⟩
    rw [hs]
    simp [traced, hx']

/-- One transport answers like another, along a map of their states. -/
def Follows (t' : Transport τ) (t : Transport σ) (f : τ → σ) : Prop :=
  ∀ request s, t.perform request (f s) = ((t'.perform request s).1, f (t'.perform request s).2)

theorem traced_follows (t : Transport σ) : t.traced.Follows t Prod.fst := fun _ _ => rfl

end Transport

namespace Observed

/-- A state with the state of its transport mapped. -/
def map (f : τ → σ) (o : Observed τ) : Observed σ :=
  ⟨f o.transport, o.journal, o.metrics⟩

/-- The state from which the exchanges are recorded. -/
def traced (o : Observed σ) : Observed (σ × List Exchange) :=
  ⟨(o.transport, []), o.journal, o.metrics⟩

@[simp] theorem map_log (f : τ → σ) (record : Log.Record) (o : Observed τ) :
    (o.map f).log record = (o.log record).map f := rfl

@[simp] theorem map_count (f : τ → σ) (enabled : Bool) (counter : Counter) (amount : Nat) (o : Observed τ) :
    (o.map f).count enabled counter amount = (o.count enabled counter amount).map f := by
  cases enabled <;> rfl

theorem perform_map {t : Transport σ} {t' : Transport τ} {f : τ → σ} (h : t'.Follows t f) (request : Request)
    (o : Observed τ) : (o.map f).perform t request = ((o.perform t' request).1, (o.perform t' request).2.map f) := by
  simp only [perform, map, h request o.transport]

@[simp] theorem transport_log (record : Log.Record) (o : Observed σ) : (o.log record).transport = o.transport := rfl

@[simp] theorem transport_count (enabled : Bool) (counter : Counter) (amount : Nat) (o : Observed σ) :
    (o.count enabled counter amount).transport = o.transport := by
  cases enabled <;> rfl

@[simp] theorem journal_count (enabled : Bool) (counter : Counter) (amount : Nat) (o : Observed σ) :
    (o.count enabled counter amount).journal = o.journal := by
  cases enabled <;> rfl

theorem perform_eq {t : Transport σ} {request : Request} {o : Observed σ} {outcome : request.Outcome} {s : σ}
    (h : t.perform request o.transport = (outcome, s)) :
    o.perform t request = (outcome, { o with transport := s }) := by
  simp only [perform, h]

/-- A request that is performed is a run of one exchange. -/
theorem runs_perform {t : Transport σ} {request : Request} {o o' : Observed σ} {outcome : request.Outcome}
    (h : o.perform t request = (outcome, o')) : t.Runs o.transport [⟨request, outcome⟩] o'.transport := by
  cases h
  exact ⟨rfl, rfl⟩

end Observed

end BucketClient
