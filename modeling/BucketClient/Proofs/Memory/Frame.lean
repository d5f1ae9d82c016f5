import BucketClient.Memory.Store
import BucketClient.Proofs.Upload.Course

/-!
# What requests leave alone in the store in memory

* `Store.perform_of_error`: a request that fails leaves the objects, the buckets and the sessions as they were.
* `Store.Keeps`: a store has the objects and the buckets of another, and no session in it is newly completed. An
  exchange that stores no object (`Exchange.preliminary`) keeps a store so, and so does a run of such exchanges.
* `createObject_atomic`: an upload that fails leaves the objects and the buckets as they were and completes no session
  that it opened; an upload that succeeds changes the object that it is for and nothing else. This holds from every
  state of the store, whatever failures are injected, and whatever the source does.
-/

namespace BucketClient

/-! ## Exchanges that store no object -/

/-- Whether the exchange is one of those before an object is stored: it is about a session that is not completed by it,
or it failed. -/
def Exchange.preliminary : Exchange → Bool
  | ⟨.initUpload .., _⟩ | ⟨.uploadPart .., _⟩ | ⟨.abortUpload .., _⟩ | ⟨_, .error _⟩ => true
  | _ => false

/-- The exchange stored the object of this bucket and key, under this tag. -/
inductive Exchange.Stores (bucket key tag : String) : Exchange → Prop
  | put {length : Option Int} {data : ByteArray} {contentType : Option String} :
      Stores bucket key tag ⟨.putObject bucket key length data contentType, .ok tag⟩
  | complete {uploadId : String} {parts : List CompletedPart} :
      Stores bucket key tag ⟨.completeUpload bucket key uploadId parts, .ok tag⟩

namespace Upload

variable {bucket key : String}

theorem Part.preliminary_of_mem_uploads {uploadId : String} {n : Nat} {taken : List Part} {x : Exchange}
    (h : x ∈ uploads bucket key uploadId n taken) : x.preliminary = true := by
  obtain ⟨number, data, answer, rfl⟩ := eq_of_mem_uploads h
  rfl

theorem preliminary_of_failed (request : Request) (e : Failure) :
    Exchange.preliminary ⟨request, .error e⟩ = true := by
  cases request <;> rfl

theorem Breaks.preliminary {session : UploadSession} {n : Nat} {pulls : List Pull} {taken : List Part}
    {ending : Ending} {reads : List Nat} {xs : List Exchange} {e : Failure}
    (h : Breaks bucket key session n pulls taken ending reads xs e) : ∀ x ∈ xs, x.preliminary = true :=
  h.forall_mem preliminary_of_failed fun _ => rfl

theorem Closes.preliminary {session : UploadSession} {parts : List CompletedPart} {ending : Ending}
    {xs : List Exchange} {result : Except Failure String} (h : Closes bucket key session parts ending xs result) :
    (∃ e, result = .error e ∧ ∀ x ∈ xs, x.preliminary = true) ∨
      ∃ tag, result = .ok tag ∧ xs = [⟨.completeUpload bucket key session.uploadId parts, .ok tag⟩] :=
  h.forall_mem preliminary_of_failed fun _ => rfl

theorem preliminary_course {contentType : Option String} {outcome : Except Failure UploadSession} {uploadId : String}
    {n : Nat} {taken : List Part} {xs : List Exchange} (h : ∀ x ∈ xs, x.preliminary = true) :
    ∀ x ∈ (⟨.initUpload bucket key contentType, outcome⟩ : Exchange) ::
      (Part.uploads bucket key uploadId n taken ++ xs), x.preliminary = true := by
  intro x hx
  rcases List.mem_cons.1 hx with rfl | hx
  · rfl
  · rcases List.mem_append.1 hx with hx | hx
    · exact Part.preliminary_of_mem_uploads hx
    · exact h x hx

/-- A creation that fails has stored no object; one that succeeds has stored one with its last request. -/
theorem Creates.preliminary_or_stores {partSize : Option Int} {name : String} {size : Option Int} {source : Source}
    {contentType : Option String} {a : Account} (h : Creates partSize name key size source contentType a) :
    match a.result with
    | .error _ => ∀ x ∈ a.exchanges, x.preliminary = true
    | .ok tag => ∃ bucket xs x, Argument.bucket name = .ok bucket ∧ a.exchanges = xs ++ [x] ∧
      (∀ y ∈ xs, y.preliminary = true) ∧ x.Stores bucket key tag := by
  cases h with
  | refused => exact List.forall_mem_nil _
  | single ha _ _ hs =>
    cases hs with
    | unread => exact List.forall_mem_nil _
    | @put data outcome _ =>
      cases outcome with
      | error e =>
        intro x hx
        rw [List.mem_singleton.1 hx]
        rfl
      | ok tag => exact ⟨_, [], _, ha.bucket_ok, rfl, List.forall_mem_nil _, .put⟩
  | parts ha _ _ hc =>
    cases hc with
    | notOpened =>
      intro x hx
      rw [List.mem_singleton.1 hx]
      rfl
    | unsplit =>
      intro x hx
      rw [List.mem_singleton.1 hx]
      rfl
    | broken _ hb => exact preliminary_course hb.preliminary
    | @closed _ _ _ _ result _ _ _ hc =>
      rcases hc.preliminary with ⟨e, rfl, hend⟩ | ⟨tag, rfl, rfl⟩
      · exact preliminary_course hend
      · refine ⟨_, _ :: Part.uploads _ key _ 1 _, _, ha.bucket_ok, rfl, ?_, .complete⟩
        rw [← List.append_nil (Part.uploads ..)]
        exact preliminary_course (List.forall_mem_nil _)

end Upload

namespace Memory

/-! ## What a request leaves alone -/

namespace Store

theorem perform_of_fault {request : Request} {s : Store} {error : Failure}
    (h : s.faults.methods.get? request.method.name = some error) :
    s.perform request = (.error error, { s with calls := s.calls ++ [request] }) := by
  unfold perform
  simp only [h]

theorem perform_of_not_fault {request : Request} {s : Store} (h : s.faults.methods.get? request.method.name = none) :
    s.perform request = { s with calls := s.calls ++ [request] }.serve request := by
  unfold perform
  simp only [h]

theorem perform_of_ok {request : Request} {s : Store} {answer : request.Answer}
    (h : (s.perform request).1 = .ok answer) :
    s.perform request = { s with calls := s.calls ++ [request] }.serve request := by
  cases hf : s.faults.methods.get? request.method.name with
  | some error =>
    rw [perform_of_fault hf] at h
    cases h
  | none => exact perform_of_not_fault hf

theorem serve_of_error {request : Request} {s : Store} {e : Failure} (h : (s.serve request).1 = .error e) :
    (s.serve request).2.objects = s.objects ∧ (s.serve request).2.buckets = s.buckets ∧
      (s.serve request).2.uploads = s.uploads := by
  cases request <;> grind [serve, Store.uploadPart, completeUpload, putBucket, putBucketAcl, deleteBucket]

/-- A request that fails leaves the objects, the buckets and the sessions as they were. -/
theorem perform_of_error {request : Request} {s : Store} {e : Failure} (h : (s.perform request).1 = .error e) :
    (s.perform request).2.objects = s.objects ∧ (s.perform request).2.buckets = s.buckets ∧
      (s.perform request).2.uploads = s.uploads := by
  cases hf : s.faults.methods.get? request.method.name with
  | some error => rw [perform_of_fault hf]; exact ⟨rfl, rfl, rfl⟩
  | none =>
    rw [perform_of_not_fault hf] at h ⊢
    exact serve_of_error h

/-- A session that is completed has all its listed parts, in their order, and they become the object. -/
theorem completeUpload_of_ok {s : Store} {bucket key uploadId tag : String} {parts : List CompletedPart}
    (h : (s.completeUpload bucket key uploadId parts).1 = .ok tag) :
    ∃ upload data,
      (s.uploads.get? uploadId = some upload ∧ inOrder parts = true ∧ assemble upload parts = .ok data) ∧
      assembledTag uploadId parts.length = tag ∧
      (s.completeUpload bucket key uploadId parts).2 = { s with
        uploads := s.uploads.insert uploadId { upload with completed := true }
        objects := s.objects.insert (objectPath bucket key) ⟨bucket, key, data, tag, upload.contentType⟩ } := by
  unfold completeUpload at h ⊢
  cases hu : s.uploads.get? uploadId with
  | none => simp [hu] at h
  | some upload =>
    cases ho : inOrder parts with
    | false => simp [hu, ho] at h
    | true =>
      cases hd : assemble upload parts with
      | error e => simp [hu, ho, hd] at h
      | ok data =>
        simp only [hu, ho, hd, if_true, Except.ok.injEq] at h ⊢
        exact ⟨upload, data, ⟨rfl, trivial, hd⟩, h, by rw [h]⟩

/-! ## Stores before an object is stored -/

/-- Whether there is a session of this name and it is completed. -/
def isCompleted (s : Store) (uploadId : String) : Bool :=
  (s.uploads.get? uploadId).any (·.completed)

/-- A store has the objects and the buckets of another one, and only those of its sessions are completed that were so
before. -/
structure Keeps (s s' : Store) : Prop where
  objects : s'.objects = s.objects
  buckets : s'.buckets = s.buckets
  completed : ∀ uploadId, s'.isCompleted uploadId = true → s.isCompleted uploadId = true

theorem Keeps.trans {s m s' : Store} (h : s.Keeps m) (h' : m.Keeps s') : s.Keeps s' where
  objects := h'.objects.trans h.objects
  buckets := h'.buckets.trans h.buckets
  completed uploadId hc := h.completed uploadId (h'.completed uploadId hc)

theorem keeps_calls (s : Store) (calls : List Request) : s.Keeps { s with calls := calls } :=
  ⟨rfl, rfl, fun _ h => h⟩

theorem isCompleted_insert (s : Store) (uploadId other : String) (upload : StoredUpload) :
    { s with uploads := s.uploads.insert uploadId upload }.isCompleted other =
      if other = uploadId then upload.completed else s.isCompleted other := by
  unfold isCompleted
  rw [Dictionary.get?_insert]
  split <;> rfl

/-- A session is stored that is completed only if it was so before. -/
theorem keeps_insert {s : Store} {uploadId : String} {upload : StoredUpload}
    (h : upload.completed = true → s.isCompleted uploadId = true) :
    s.Keeps { s with uploads := s.uploads.insert uploadId upload } := by
  refine ⟨rfl, rfl, fun other hc => ?_⟩
  rw [isCompleted_insert] at hc
  split at hc
  · rename_i ho
    rw [ho]
    exact h hc
  · exact hc

theorem keeps_uploadPart (s : Store) (uploadId : String) (number : Int) (length : Option Int) (data : ByteArray) :
    s.Keeps (s.uploadPart uploadId number length data).2 := by
  unfold uploadPart
  split
  · exact keeps_calls s s.calls
  · cases hu : s.uploads.get? uploadId with
    | none => exact keeps_calls s s.calls
    | some upload =>
      dsimp only
      split
      · exact keeps_insert fun hc => by simpa [isCompleted, hu] using hc
      · exact keeps_calls s s.calls

theorem keeps_abortUpload (s : Store) (uploadId : String) : s.Keeps (s.abortUpload uploadId) := by
  unfold abortUpload
  cases hu : s.uploads.get? uploadId with
  | none => exact keeps_calls s s.calls
  | some upload => exact keeps_insert fun hc => by simpa [isCompleted, hu] using hc

/-- A new session is stored, which is not completed. -/
theorem keeps_initUpload (s : Store) (bucket key : String) (contentType : Option String) :
    s.Keeps (s.initUpload bucket key contentType).2 ∧
      (s.initUpload bucket key contentType).2.isCompleted (s.initUpload bucket key contentType).1.uploadId = false := by
  have hk : s.Keeps { s with uploadCount := s.uploadCount + 1 } := ⟨rfl, rfl, fun _ h => h⟩
  exact ⟨hk.trans (keeps_insert nofun), by simp [initUpload, isCompleted]⟩

theorem isCompleted_of_opened {s : Store} {x : Exchange} {session : UploadSession}
    (h : (s.perform x.request).1 = x.outcome) (ho : x.opened = some session) :
    (s.perform x.request).2.isCompleted session.uploadId = false := by
  obtain ⟨request, outcome⟩ := x
  cases hf : s.faults.methods.get? request.method.name with
  | some error =>
    dsimp only at h
    rw [perform_of_fault hf] at h
    subst h
    cases request <;> cases ho
  | none =>
    dsimp only at h ⊢
    rw [perform_of_not_fault hf] at h ⊢
    subst h
    cases request with
    | initUpload bucket key contentType =>
      cases ho
      exact (keeps_initUpload _ bucket key contentType).2
    | _ => cases ho

/-- An exchange that stores no object. -/
theorem keeps_perform {s : Store} {x : Exchange} (hx : x.preliminary = true) (h : (s.perform x.request).1 = x.outcome) :
    s.Keeps (s.perform x.request).2 := by
  obtain ⟨request, outcome⟩ := x
  cases outcome with
  | error e =>
    obtain ⟨ho, hb, hu⟩ := perform_of_error h
    exact ⟨ho, hb, fun uploadId hc => by rwa [isCompleted, hu] at hc⟩
  | ok answer =>
    cases hf : s.faults.methods.get? request.method.name with
    | some error => rw [perform_of_fault hf]; exact keeps_calls s _
    | none =>
      dsimp only
      rw [perform_of_not_fault hf]
      refine (keeps_calls s (s.calls ++ [request])).trans ?_
      cases request with
      | initUpload bucket key contentType => exact (keeps_initUpload _ bucket key contentType).1
      | uploadPart _ _ uploadId number length data => exact keeps_uploadPart _ uploadId number length data
      | abortUpload _ _ uploadId => exact keeps_abortUpload _ uploadId
      | _ => cases hx

end Store

/-- A run of exchanges that store no object. -/
theorem keeps_of_runs {xs : List Exchange} {s s' : Store} (h : transport.Runs s xs s')
    (hx : ∀ x ∈ xs, x.preliminary = true) : s.Keeps s' := by
  induction xs generalizing s with
  | nil =>
    obtain rfl : s' = s := h
    exact Store.keeps_calls s' s'.calls
  | cons x xs ih =>
    obtain ⟨hp, hxs⟩ := List.forall_mem_cons.1 hx
    exact (Store.keeps_perform hp h.1).trans (ih h.2 hxs)

/-- A session that was opened in such a run is not completed. -/
theorem not_isCompleted_of_opened {xs : List Exchange} {s s' : Store} (h : transport.Runs s xs s')
    (hx : ∀ x ∈ xs, x.preliminary = true) {x : Exchange} (hm : x ∈ xs) {session : UploadSession}
    (ho : x.opened = some session) : s'.isCompleted session.uploadId = false := by
  induction xs generalizing s with
  | nil => cases hm
  | cons y xs ih =>
    obtain ⟨hp, hxs⟩ := List.forall_mem_cons.1 hx
    rcases List.mem_cons.1 hm with rfl | hm
    · refine Bool.eq_false_iff.2 fun hc => Bool.eq_false_iff.1 ?_ ((keeps_of_runs h.2 hxs).completed _ hc)
      exact Store.isCompleted_of_opened h.1 ho
    · exact ih h.2 hxs hm

/-- An exchange that stores an object. -/
theorem perform_of_stores {s : Store} {x : Exchange} {bucket key tag : String} (hx : x.Stores bucket key tag)
    (h : (s.perform x.request).1 = x.outcome) :
    (∃ object : StoredObject, object.bucket = bucket ∧ object.key = key ∧ object.tag = tag ∧
      (s.perform x.request).2.objects = s.objects.insert (objectPath bucket key) object) ∧
    (s.perform x.request).2.buckets = s.buckets := by
  cases hf : s.faults.methods.get? x.request.method.name with
  | some error =>
    rw [Store.perform_of_fault hf] at h
    cases hx <;> cases h
  | none =>
    rw [Store.perform_of_not_fault hf] at h ⊢
    cases hx with
    | put =>
      cases h
      exact ⟨⟨_, rfl, rfl, rfl, rfl⟩, rfl⟩
    | @complete uploadId parts =>
      obtain ⟨upload, data, -, rfl, hs⟩ := Store.completeUpload_of_ok h
      rw [show (Store.serve _ (.completeUpload bucket key uploadId parts)).2 = _ from hs]
      exact ⟨⟨⟨bucket, key, data, _, upload.contentType⟩, rfl, rfl, rfl, rfl⟩, rfl⟩

/-- A client of the store. -/
def client (settings : Settings) (partSize : Option Int) : Client Store :=
  ⟨transport, settings, partSize⟩

/-- **Uploads are all or nothing.** One that fails leaves the objects and the buckets as they were, and no session that
it opened is completed; one that succeeds stores its object, under the tag that it returns, and nothing else. -/
theorem createObject_atomic (settings : Settings) (partSize : Option Int) (name key : String) (size : Option Int)
    (source : Source) (contentType : Option String) (o : Observed Store) :
    let report := (client settings partSize).createObject name key size source contentType o
    let account := (client settings partSize).account name key size source contentType o
    match report.result with
    | .error _ =>
      report.after.transport.objects = o.transport.objects ∧ report.after.transport.buckets = o.transport.buckets ∧
        ∀ x ∈ account.exchanges, ∀ session, x.opened = some session →
          report.after.transport.isCompleted session.uploadId = false
    | .ok tag => ∃ (bucket : String) (object : StoredObject), Argument.bucket name = .ok bucket ∧
      object.bucket = bucket ∧ object.key = key ∧ object.tag = tag ∧
      report.after.transport.objects = o.transport.objects.insert (objectPath bucket key) object ∧
      report.after.transport.buckets = o.transport.buckets := by
  have hcreates := (client settings partSize).createObject_creates name key size source contentType o
  have hr := (client settings partSize).result_account name key size source contentType o
  generalize (client settings partSize).createObject name key size source contentType o = report at hcreates hr ⊢
  generalize (client settings partSize).account name key size source contentType o = account at hcreates hr ⊢
  have hrun : transport.Runs o.transport account.exchanges report.after.transport := hcreates.1
  have h := hcreates.2.preliminary_or_stores
  dsimp only
  rw [hr] at h
  cases hresult : report.result with
  | error e =>
    rw [hresult] at h
    have hk := keeps_of_runs hrun h
    exact ⟨hk.objects, hk.buckets, fun x hx session ho => not_isCompleted_of_opened hrun h hx ho⟩
  | ok tag =>
    rw [hresult] at h
    obtain ⟨bucket, xs, x, hb, hxs, hp, hx⟩ := h
    rw [hxs] at hrun
    obtain ⟨m, hm, hlast, hs⟩ := Transport.runs_append.1 hrun
    have hs : report.after.transport = (m.perform x.request).2 := hs
    have hk := keeps_of_runs hm hp
    obtain ⟨⟨object, hob, hok, hot, hobjects⟩, hbuckets⟩ := perform_of_stores hx hlast
    refine ⟨bucket, object, hb, hob, hok, hot, ?_, ?_⟩
    · rw [hs, ← hk.objects]
      exact hobjects
    · rw [hs, ← hk.buckets]
      exact hbuckets

end Memory

end BucketClient
