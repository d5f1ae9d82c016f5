import BucketClient.Memory.Store
import BucketClient.Proofs.Client.Command
import BucketClient.Proofs.Feed.Run
import BucketClient.Proofs.S3.Wire
import BucketClient.Proofs.Upload.Course

/-!
# What passes the checks of a client

A command whose arguments do not pass has no effect but to say so. One whose arguments pass is carried out with
requests that suit it: they name its bucket without white space around it, its key as it is, and its access rule as
the supported one that it stands for.

* `Creates.addresses`: all requests of an upload are for its bucket and its key, but for the abortion, which is for the
  session that the transport has opened. Both transports open sessions for the bucket and the key that they are asked
  for (`Memory.transport_echoes`, `S3.transport_echoes`).
* `Walk.Fetches.requests_of_runs`: the requests of a listing, whoever reads it and however its producer is scheduled.
* `issue_gate`: both sides of the checks, for every command.
-/

namespace BucketClient

variable {σ : Type}

/-! ## What requests are for -/

namespace Request

/-- The bucket that a request is for. -/
def bucket? : Request → Option String
  | .initUpload bucket .. | .uploadPart bucket .. | .completeUpload bucket .. | .abortUpload bucket ..
  | .putObject bucket .. | .getObject bucket .. | .headObject bucket _ | .deleteObject bucket _
  | .putBucket bucket _ | .putBucketAcl bucket _ | .headBucket bucket | .deleteBucket bucket
  | .listObjects bucket .. => some bucket
  | .listBuckets => none

/-- The key that a request is for. -/
def key? : Request → Option String
  | .initUpload _ key _ | .uploadPart _ key .. | .completeUpload _ key .. | .abortUpload _ key _
  | .putObject _ key .. | .getObject _ key .. | .headObject _ key | .deleteObject _ key => some key
  | _ => none

/-- The access rule that a request is to set. -/
def acl? : Request → Option String
  | .putBucket _ acl | .putBucketAcl _ acl => some acl
  | _ => none

/-- The request is for this object. -/
structure Addresses (bucket key : String) (request : Request) : Prop where
  bucket_eq : request.bucket? = some bucket
  key_eq : request.key? = some key
  acl_eq : request.acl? = none

end Request

/-- The request is for the bucket of the command without white space around it and for its key as it is, and an access
rule is the supported one that the command stands for. -/
structure Command.Suits (command : Command) (request : Request) : Prop where
  bucket : request.bucket? = command.bucket?.map Text.strip
  key : ∀ key ∈ request.key?, command.key? = some key
  acl : ∀ name ∈ request.acl?, ∃ given, command.acl? = some given ∧
    name = Text.lower (Text.strip (given.getD "")) ∧ ∃ acl : Acl, acl.name = name

/-- The transport opens sessions for the bucket and the key that it is asked for. -/
def Transport.Echoes (t : Transport σ) : Prop :=
  ∀ bucket key contentType s session, (t.perform (.initUpload bucket key contentType) s).1 = .ok session →
    session.bucket = bucket ∧ session.key = key

theorem Memory.transport_echoes : Memory.transport.Echoes := by
  intro bucket key contentType s session h
  simp only [Memory.transport, Memory.Store.perform] at h
  split at h
  · cases h
  · cases h
    exact ⟨rfl, rfl⟩

theorem S3.transport_echoes {τ : Type} (settings : Settings) (service : S3.Service τ) :
    (S3.transport settings service).Echoes := by
  intro bucket key contentType s session h
  simp only [S3.transport, S3.callFor] at h
  rcases hr : service.respond (.createMultipartUpload bucket key (S3.contentTypeOr settings contentType)) s with
    ⟨outcome, s'⟩
  rw [hr] at h
  have hread : S3.Sent.read ⟨.createMultipartUpload bucket key (S3.contentTypeOr settings contentType), outcome⟩
      (.initUpload bucket key contentType) = .ok session := by
    cases outcome with
    | error e => cases h
    | ok response => exact h
  obtain ⟨response, id, -, -, rfl⟩ := S3.read_initUpload_ok hread
  exact ⟨rfl, rfl⟩

/-! ## The requests of an upload -/

namespace Upload

section

variable {bucket key : String} {contentType : Option String} {partSize : Int} {source : Source} {ending : Ending}
  {session : UploadSession} {a : Account}

theorem Part.addresses_of_mem_uploads {uploadId : String} {n : Nat} {taken : List Part} {x : Exchange}
    (h : x ∈ Part.uploads bucket key uploadId n taken) : x.request.Addresses bucket key := by
  induction taken generalizing n with
  | nil => cases h
  | cons part taken ih =>
    rcases List.mem_cons.1 h with rfl | h
    · exact ⟨rfl, rfl, rfl⟩
    · exact ih h

theorem Breaks.addresses {n : Nat} {pulls : List Pull} {taken : List Part} {reads : List Nat} {xs : List Exchange}
    {e : Failure} (h : Breaks bucket key session n pulls taken ending reads xs e) {x : Exchange} (hx : x ∈ xs) :
    x.request.Addresses bucket key ∨ ∃ outcome, x = abortion session outcome := by
  cases h with
  | refused =>
    rcases List.mem_cons.1 hx with rfl | hx
    · exact .inl ⟨rfl, rfl, rfl⟩
    · exact .inr ⟨_, List.mem_singleton.1 hx⟩
  | unreadable => exact .inr ⟨_, List.mem_singleton.1 hx⟩
  | refusedByInterrupt =>
    rw [List.mem_singleton.1 hx]
    exact .inl ⟨rfl, rfl, rfl⟩
  | unreadByInterrupt => cases hx

theorem Closes.addresses {parts : List CompletedPart} {xs : List Exchange} {result : Except Failure String}
    (h : Closes bucket key session parts ending xs result) {x : Exchange} (hx : x ∈ xs) :
    x.request.Addresses bucket key ∨ ∃ outcome, x = abortion session outcome := by
  cases h with
  | completed | interrupted =>
    rw [List.mem_singleton.1 hx]
    exact .inl ⟨rfl, rfl, rfl⟩
  | notCompleted =>
    rcases List.mem_cons.1 hx with rfl | hx
    · exact .inl ⟨rfl, rfl, rfl⟩
    · exact .inr ⟨_, List.mem_singleton.1 hx⟩

/-- The requests of an upload in parts are for its object, but for an abortion of the session that was opened. -/
theorem Course.addresses (h : Course bucket key contentType partSize source ending a) {x : Exchange}
    (hx : x ∈ a.exchanges) : x.request.Addresses bucket key ∨ ∃ session outcome, x = abortion session outcome ∧
      (⟨.initUpload bucket key contentType, .ok session⟩ : Exchange) ∈ a.exchanges := by
  cases h with
  | notOpened | unsplit =>
    rw [List.mem_singleton.1 hx]
    exact .inl ⟨rfl, rfl, rfl⟩
  | broken _ hb =>
    rcases List.mem_cons.1 hx with rfl | hx
    · exact .inl ⟨rfl, rfl, rfl⟩
    rcases List.mem_append.1 hx with hx | hx
    · exact .inl (Part.addresses_of_mem_uploads hx)
    · exact (hb.addresses hx).imp_right fun ⟨outcome, h⟩ => ⟨_, outcome, h, List.mem_cons_self⟩
  | closed _ _ _ hc =>
    rcases List.mem_cons.1 hx with rfl | hx
    · exact .inl ⟨rfl, rfl, rfl⟩
    rcases List.mem_append.1 hx with hx | hx
    · exact .inl (Part.addresses_of_mem_uploads hx)
    · exact (hc.addresses hx).imp_right fun ⟨outcome, h⟩ => ⟨_, outcome, h, List.mem_cons_self⟩

variable {name : String} {size : Option Int} {p : Option Int} {n : Int}

/-- **The requests of an upload** are for its object, but for an abortion of the session that was opened. -/
theorem Creates.addresses (h : Creates p name key size source contentType a) (ha : Accepted name key size bucket n)
    {x : Exchange} (hx : x ∈ a.exchanges) :
    x.request.Addresses bucket key ∨ ∃ session outcome, x = abortion session outcome ∧
      (⟨.initUpload bucket key contentType, .ok session⟩ : Exchange) ∈ a.exchanges := by
  cases h with
  | refused => cases hx
  | single ha' _ _ hs =>
    cases ha.bucket_ok.symm.trans ha'.bucket_ok
    cases hs with
    | unread => cases hx
    | put =>
      rw [List.mem_singleton.1 hx]
      exact .inl ⟨rfl, rfl, rfl⟩
  | parts ha' _ _ hc =>
    cases ha.bucket_ok.symm.trans ha'.bucket_ok
    exact hc.addresses hx

/-! ## Uploads do not make up faulty arguments -/

variable {fault : ArgumentFault}

theorem argument_ne_of_interrupt {e : Failure} (h : e.isInterrupt = true) : e ≠ .argument fault := by
  rintro rfl
  cases h

/-- What an upload fails with after an abortion is faulty argument only if it was before. -/
theorem failureAfter_ne {outcome : Except Failure Unit} {failure : Failure} (h : failure ≠ .argument fault) :
    failureAfter outcome failure ≠ .argument fault := by
  unfold failureAfter
  cases outcome with
  | ok _ => exact h
  | error e =>
    dsimp only
    split
    · rename_i he
      exact argument_ne_of_interrupt he
    · exact h

theorem content_ne_of_numbered {k : Nat} {pulls : List Pull} (h : Split.Numbered k pulls) {pull : Pull}
    (hp : pull ∈ pulls) : pull.piece.content ≠ .error (.argument fault) := by
  induction h with
  | nil => cases hp
  | part _ ih =>
    rcases List.mem_cons.1 hp with rfl | hp
    · exact nofun
    · exact ih hp
  | finished =>
    rw [List.mem_singleton.1 hp]
    exact nofun
  | unreadable =>
    rw [List.mem_singleton.1 hp]
    exact nofun
  | interrupted he =>
    rw [List.mem_singleton.1 hp]
    exact fun h => argument_ne_of_interrupt he (Except.error.inj h)

theorem Breaks.ne_argument {k : Nat} {pulls : List Pull} {taken : List Part} {reads : List Nat} {xs : List Exchange}
    {e : Failure} (h : Breaks bucket key session k pulls taken ending reads xs e) : e ≠ .argument fault := by
  cases h with
  | refused => exact failureAfter_ne nofun
  | unreadable => exact failureAfter_ne nofun
  | refusedByInterrupt _ _ _ he => exact argument_ne_of_interrupt he
  | unreadByInterrupt _ _ he => exact argument_ne_of_interrupt he

theorem Closes.ne_argument {parts : List CompletedPart} {xs : List Exchange} {result : Except Failure String}
    (h : Closes bucket key session parts ending xs result) : result ≠ .error (.argument fault) := by
  cases h with
  | completed => exact nofun
  | @notCompleted e outcome =>
    have hne : Failure.incompleteUpload bucket key session.uploadId none e ≠ .argument fault := nofun
    exact fun h => failureAfter_ne hne (Except.error.inj h)
  | interrupted he => exact fun h => argument_ne_of_interrupt he (Except.error.inj h)

/-- An upload whose arguments pass fails by a faulty argument only if the transport says so. -/
theorem Creates.exists_of_argument (h : Creates p name key size source contentType a)
    (ha : Accepted name key size bucket n) (hp : p ≠ none) (hr : a.result = .error (.argument fault)) :
    ∃ x ∈ a.exchanges, x.outcome = .error (.argument fault) := by
  cases h with
  | refused h =>
    rcases h with h | h
    · exact absurd ha (h bucket n)
    · exact absurd h hp
  | single _ _ _ hs =>
    cases hs with
    | unread hc =>
      cases hr
      exact absurd hc (content_ne_of_numbered (Source.numbered_pulls _ source) (List.head_mem _))
    | put => exact ⟨_, List.mem_singleton_self _, hr⟩
  | parts _ _ _ hc =>
    cases hc with
    | notOpened =>
      cases hr
      exact ⟨_, List.mem_singleton_self _, rfl⟩
    | unsplit => cases hr
    | broken _ hb => exact absurd (Except.error.inj hr) hb.ne_argument
    | closed _ _ _ hc => exact absurd hr hc.ne_argument

end

end Upload

/-! ## The requests of a walk -/

namespace Walk

variable {μ α : Type} {walk : Walk (σ × List Exchange) μ α} {P : Request → Prop}

/-- Every fetch of a walk adds only such requests to the record. -/
def Fetches (walk : Walk (σ × List Exchange) μ α) (P : Request → Prop) : Prop :=
  ∀ marker delimiter o, ∃ xs, (walk.fetch marker delimiter o).2.transport.2 = o.transport.2 ++ xs ∧
    ∀ x ∈ xs, P x.request

theorem transport_fetchPage (marker : μ) (o : Observed (σ × List Exchange)) :
    (walk.fetchPage marker o).2.transport = (walk.fetch marker walk.delimiter o).2.transport := by
  unfold fetchPage
  rcases walk.fetch marker walk.delimiter o with ⟨e | page, o⟩
  · dsimp only
    split <;> rfl
  · rfl

/-- What the producer does by itself adds only such requests to the record. -/
theorem Fetches.of_work (h : walk.Fetches P) {stage : Stage μ α}
    {run : Observed (σ × List Exchange) → Stage μ α × Observed (σ × List Exchange)}
    (hw : walk.producer stage = .work run) (o : Observed (σ × List Exchange)) :
    ∃ xs, (run o).2.transport.2 = o.transport.2 ++ xs ∧ ∀ x ∈ xs, P x.request := by
  cases stage with
  | fetching marker =>
    obtain rfl : walk.fetchPage marker = run := by
      cases hw
      rfl
    rw [transport_fetchPage]
    exact h marker walk.delimiter o
  | emitting left page =>
    cases left with
    | nil =>
      cases hw
      exact ⟨[], (List.append_nil _).symm, List.forall_mem_nil _⟩
    | cons entry left => cases entry <;> cases hw
  | ending | failing | finished => cases hw

/-- **The requests of a walk**, in whatever order its producer moves and its consumer takes, and while others change
everything but the record. -/
theorem Fetches.requests_of_runs (h : walk.Fetches P)
    {outside : Observed (σ × List Exchange) → Observed (σ × List Exchange) → Prop}
    (hout : ∀ o o', outside o o' → o'.transport.2 = o.transport.2) {es : List (Feed.Event _ (Stage μ α) α)}
    {f f' : Feed (Stage μ α) α} {o o' : Observed (σ × List Exchange)}
    (hrun : Feed.Runs walk.producer outside f o es f' o') :
    ∃ xs, o'.transport.2 = o.transport.2 ++ xs ∧ ∀ x ∈ xs, P x.request := by
  refine hrun.keeps (P := fun _ _ o' => ∃ xs, o'.transport.2 = o.transport.2 ++ xs ∧ ∀ x ∈ xs, P x.request)
    ⟨[], (List.append_nil _).symm, List.forall_mem_nil _⟩ ?_
  rintro es f₁ o₁ e f₂ o₂ ⟨xs, hxs, hP⟩ hstep
  cases hstep with
  | take | get | look => exact ⟨xs, hxs, hP⟩
  | close => exact ⟨xs, hxs, hP⟩
  | disturb hd => exact ⟨xs, (hout _ _ hd).trans hxs, hP⟩
  | move hm he =>
    cases Feed.advance_cases hm he with
    | work hw =>
      obtain ⟨ys, hys, hQ⟩ := h.of_work hw o₁
      refine ⟨xs ++ ys, ?_, List.forall_mem_append.2 ⟨hP, hQ⟩⟩
      rw [hys, hxs, List.append_assoc]
    | _ => exact ⟨xs, hxs, hP⟩

end Walk

theorem Listing.fetches_objects (t : Transport σ) (settings : Settings) (bucket stem : String) (recursive : Bool) :
    (Listing.objects t.traced settings bucket stem recursive).Fetches fun request =>
      ∃ maxKeys marker delimiter, request = .listObjects bucket maxKeys marker (some stem) delimiter := by
  intro marker delimiter o
  refine ⟨[⟨.listObjects bucket (some settings.maxKeys) (some marker) (some stem) (some delimiter),
    (t.perform _ o.transport.1).1⟩], ?_, List.forall_mem_singleton.2 ⟨_, _, _, rfl⟩⟩
  simp only [objects, Walk.pages, fetchObjects, Observed.perform, Transport.traced]
  rcases t.perform (.listObjects bucket (some settings.maxKeys) (some marker) (some stem) (some delimiter))
    o.transport.1 with ⟨_ | _, _⟩
  · rfl
  · simp [countPage]

/-! ## Both sides of the checks -/

namespace Client

/-- How a command is carried out whose arguments pass: it fails by a faulty argument only if the transport says so, and
its requests suit it, except that an abortion is for what the transport takes the session to be for. -/
structure Heeds (client : Client σ) (command : Command) (o : Observed σ) : Prop where
  argument : ∀ fault, (client.issue command o).result = .error (.argument fault) →
    ∃ x ∈ client.exchanges command o, x.outcome = .error (.argument fault)
  suits : ∀ x ∈ client.exchanges command o, client.transport.Echoes ∨ x.request.method ≠ .abortUpload →
    command.Suits x.request

section

variable {client : Client σ} {command : Command} {o : Observed σ}

/-- A command that is carried out with one request. -/
theorem Heeds.of_request {request : Request}
    (hx : client.exchanges command o = [⟨request, (client.transport.perform request o.transport).1⟩])
    (hr : ∀ fault, (client.issue command o).result = .error (.argument fault) →
      (client.transport.perform request o.transport).1 = .error (.argument fault))
    (hs : command.Suits request) : client.Heeds command o where
  argument fault h := ⟨_, by rw [hx]; exact List.mem_singleton_self _, hr fault h⟩
  suits x hm _ := by
    rw [hx, List.mem_singleton] at hm
    rw [hm]
    exact hs

/-- A request for an object suits a command for this object. -/
theorem suits_of_addresses {request : Request} {name key : String} (h : request.Addresses (Text.strip name) key)
    (hb : command.bucket? = some name) (hk : command.key? = some key) : command.Suits request where
  bucket := by rw [h.bucket_eq, hb]; rfl
  key k hm := by
    rw [h.key_eq] at hm
    rw [hk, Option.mem_def.1 hm]
  acl name hm := by
    rw [h.acl_eq] at hm
    cases hm

/-- A request to set the access rule of a bucket suits a command for this bucket and the rule that it stands for. -/
theorem suits_of_acl {request : Request} {name : String} {given : Option String}
    (ha : ∃ acl : Acl, acl.name = Text.lower (Text.strip (given.getD "")))
    (hb : request.bucket? = some (Text.strip name)) (hk : request.key? = none)
    (hr : request.acl? = some (Text.lower (Text.strip (given.getD "")))) (hb' : command.bucket? = some name)
    (hg : command.acl? = some given) : command.Suits request where
  bucket := by rw [hb, hb']; rfl
  key k hm := by
    rw [hk] at hm
    cases hm
  acl rule hm := by
    rw [hr] at hm
    obtain rfl := Option.some.inj hm
    exact ⟨given, hg, rfl, ha⟩

/-- A request for a bucket suits a command for this bucket. -/
theorem suits_of_bucket {request : Request} {name : String} (hb : request.bucket? = some (Text.strip name))
    (hk : request.key? = none) (ha : request.acl? = none) (hb' : command.bucket? = some name) :
    command.Suits request where
  bucket := by rw [hb, hb']; rfl
  key k hm := by
    rw [hk] at hm
    cases hm
  acl rule hm := by
    rw [ha] at hm
    cases hm

/-- An upload whose arguments pass. -/
theorem heeds_createObject {name key : String} {size : Int} {source : Source} {contentType : Option String}
    (h : (Command.createObject name key size source contentType).Valid) :
    client.Heeds (.createObject name key size source contentType) o := by
  obtain ⟨hb, hk, hs⟩ := accepted_of_valid h
  have ha : Upload.Accepted name key (some size) (Text.strip name) size := ⟨hb, hk, hs⟩
  obtain ⟨hrun, hc⟩ := client.createObject_creates name key (some size) source contentType o
  constructor
  · intro fault hr
    rw [exchanges_createObject]
    rw [issue_createObject] at hr
    cases hp : client.partSize with
    | some p =>
      refine hc.exists_of_argument ha (by rw [hp]; exact nofun) ?_
      rw [client.result_account]
      exact hr
    | none =>
      rw [client.createObject_of_no_partSize o hp h] at hr
      cases hr
  · intro x hx hecho
    rw [exchanges_createObject] at hx
    rcases hc.addresses ha hx with hfor | ⟨session, outcome, rfl, hopened⟩
    · exact suits_of_addresses hfor rfl rfl
    · obtain ⟨m, -, hanswer⟩ := hrun.exists_of_mem (P := fun _ => True) (fun _ _ _ => trivial) trivial hopened
      have hsession := hecho.resolve_right (Classical.not_not.2 rfl) _ _ _ _ _ hanswer
      refine suits_of_addresses ⟨congrArg some hsession.1, congrArg some hsession.2, rfl⟩ rfl rfl

/-- Every command whose arguments pass. -/
theorem heeds_of_valid (client : Client σ) {command : Command} (h : command.Valid) (o : Observed σ) :
    client.Heeds command o := by
  cases command with
  | createObject => exact heeds_createObject h
  | getObject name key offset length =>
    refine .of_request (by rw [exchanges, issue_getObject _ _ h]; rfl) (fun fault hr => ?_)
      (suits_of_addresses ⟨rfl, rfl, rfl⟩ rfl rfl)
    rw [issue_getObject _ _ h] at hr
    exact hr
  | statObject name key =>
    refine .of_request (by rw [exchanges, issue_statObject _ _ h]; rfl) (fun fault hr => ?_)
      (suits_of_addresses ⟨rfl, rfl, rfl⟩ rfl rfl)
    rw [issue_statObject _ _ h] at hr
    exact hr
  | deleteObject name key =>
    refine .of_request (by rw [exchanges, issue_deleteObject _ _ h]; rfl) (fun fault hr => ?_)
      (suits_of_addresses ⟨rfl, rfl, rfl⟩ rfl rfl)
    rw [issue_deleteObject _ _ h] at hr
    exact hr
  | createBucket name given =>
    refine .of_request (by rw [exchanges, issue_createBucket _ _ h]; rfl) (fun fault hr => ?_)
      (suits_of_acl (Command.valid_createBucket_iff.1 h).2 rfl rfl rfl rfl rfl)
    rw [issue_createBucket _ _ h] at hr
    exact hr
  | setBucketAcl name given =>
    refine .of_request (by rw [exchanges, issue_setBucketAcl _ _ h]; rfl) (fun fault hr => ?_)
      (suits_of_acl (Command.valid_setBucketAcl_iff.1 h).2 rfl rfl rfl rfl rfl)
    rw [issue_setBucketAcl _ _ h] at hr
    exact hr
  | statBucket name =>
    refine .of_request (by rw [exchanges, issue_statBucket _ _ h]; rfl) (fun fault hr => ?_)
      (suits_of_bucket rfl rfl rfl rfl)
    rw [issue_statBucket _ _ h] at hr
    exact hr
  | deleteBucket name =>
    refine .of_request (by rw [exchanges, issue_deleteBucket _ _ h]; rfl) (fun fault hr => ?_)
      (suits_of_bucket rfl rfl rfl rfl)
    rw [issue_deleteBucket _ _ h] at hr
    exact hr
  | listObjects name stem recursive =>
    -- nothing is requested before the listing is read
    have hwalk := fun (σ : Type) (client : Client σ) =>
      client.listObjects_of_ne (Command.valid_listObjects_iff.1 h) stem recursive
    constructor
    · intro fault hr
      simp only [issue, hwalk] at hr
      cases hr
    · intro x hx
      simp only [exchanges, issue, hwalk] at hx
      cases hx
  | listBuckets =>
    constructor
    · intro fault hr
      cases hr
    · intro x hx
      cases hx

end

/-- **The checks of a client.** A command whose arguments do not pass fails by a faulty argument and does nothing else:
nothing is read, requested, logged or counted, and a listing is not begun. A command whose arguments pass does not fail
its checks, and every request that is made for it suits it. For a listing these are the requests of its walk, however
it is read, and while others change everything but the record. -/
theorem issue_gate (client : Client σ) (command : Command) (o : Observed σ) :
    (¬command.Valid →
      (∃ fault, client.issue command o = ⟨.error (.argument fault), [], o⟩) ∧ client.exchanges command o = []) ∧
    (command.Valid → client.Heeds command o) ∧
    ∀ name stem recursive walk, command = .listObjects name stem recursive →
      client.traced.listObjects name stem recursive = .ok walk →
      ∀ (outside : Observed (σ × List Exchange) → Observed (σ × List Exchange) → Prop) es f o₁ o₂,
        (∀ o o', outside o o' → o'.transport.2 = o.transport.2) →
        Feed.Runs walk.producer outside walk.feed o₁ es f o₂ →
        ∃ xs, o₂.transport.2 = o₁.transport.2 ++ xs ∧ ∀ x ∈ xs, command.Suits x.request := by
  refine ⟨fun h => ⟨client.issue_of_not_valid h o, ?_⟩, fun h => client.heeds_of_valid h o, ?_⟩
  · obtain ⟨fault, hissue⟩ := client.traced.issue_of_not_valid h o.traced
    rw [exchanges, hissue]
    rfl
  · rintro name stem recursive walk rfl hwalk outside es f o₁ o₂ hout hrun
    by_cases hb : Text.strip name = ""
    · rw [listObjects, Argument.bucket_of_blank hb] at hwalk
      cases hwalk
    rw [listObjects_of_ne _ hb] at hwalk
    cases hwalk
    obtain ⟨xs, hxs, hrequests⟩ := (Listing.fetches_objects client.transport client.settings (Text.strip name) stem
      recursive).requests_of_runs hout hrun
    refine ⟨xs, hxs, fun x hx => ?_⟩
    obtain ⟨maxKeys, marker, delimiter, hr⟩ := hrequests x hx
    rw [hr]
    exact suits_of_bucket rfl rfl rfl rfl

/-- A read of a negative length is refused; a bucket is created with its name trimmed and its rule in lower case. -/
theorem issue_gate_of_length_and_rule :
    let client : Client Memory.Store := ⟨Memory.transport, {}, some 1⟩
    let o : Observed Memory.Store := ⟨{}, [], {}⟩
    let read : Command := .getObject "b" "k" 0 (-1)
    let create : Command := .createBucket " b " (some " Public-READ ")
    (¬read.Valid ∧ ∃ fault, client.issue read o = ⟨.error (.argument fault), [], o⟩) ∧
      create.Valid ∧ (client.exchanges create o).map (·.request.acl?) = [some "public-read"] ∧
      ∀ x ∈ client.exchanges create o, create.Suits x.request := by
  intro client o read create
  have hread : ¬read.Valid := by
    intro h
    have hl := (Command.valid_getObject_iff.1 h).2.2
    exact absurd hl (by decide)
  have hcreate : create.Valid := Command.valid_createBucket_iff.2 ⟨by decide, .publicRead, by decide⟩
  refine ⟨⟨hread, ((issue_gate client read o).1 hread).1⟩, hcreate, by decide +kernel, ?_⟩
  have hheeds := (issue_gate client create o).2.1 hcreate
  exact fun x hx => hheeds.suits x hx (.inl Memory.transport_echoes)

end Client

end BucketClient
