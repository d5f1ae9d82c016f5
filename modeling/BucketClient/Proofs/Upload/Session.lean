import BucketClient.Memory.Store
import BucketClient.Proofs.Upload.Course
import Mathlib.Logic.ExistsUnique

/-!
# What becomes of an upload session

* `existsUnique_ending`: without interrupts, an upload in parts takes exactly one of four courses: the session is not
  opened; or all parts are stored and it is completed; or a part fails, or the completion, and it is aborted once.
* `settled_iff`: when exactly a session that was opened has been completed or was to be aborted at the end of the
  upload. It never has been both.

Both rest on reading the ending off the account (`Course.ending_eq`) and the fate of the session off the ending
(`Course.completed_iff`, `Course.aborted_iff`, `Course.leftOpen_iff`).
-/

namespace BucketClient.Upload

/-! ## The ending, read off the account -/

/-- Whether a request of this operation was made. -/
def made (method : Method) (xs : List Exchange) : Bool :=
  xs.any (·.request.method == method)

/-- The ending of an upload in parts. -/
def Account.ending (a : Account) : Ending :=
  match a.result with
  | .ok _ => .completed
  | .error _ =>
    if made .abortUpload a.exchanges then
      if made .completeUpload a.exchanges then .notCompleted else .broken
    else if a.exchanges.any (·.opened.isSome) then .leftOpen
    else .notOpened

theorem made_cons (method : Method) (x : Exchange) (xs : List Exchange) :
    made method (x :: xs) = (x.request.method == method || made method xs) := rfl

theorem made_append (method : Method) (xs ys : List Exchange) :
    made method (xs ++ ys) = (made method xs || made method ys) := List.any_append

theorem made_uploads {method : Method} (h : method ≠ .uploadPart) (bucket key uploadId : String) (n : Nat)
    (taken : List Part) : made method (Part.uploads bucket key uploadId n taken) = false := by
  induction taken generalizing n with
  | nil => rfl
  | cons part rest ih =>
    rw [Part.uploads, made_cons, ih, Bool.or_false]
    exact beq_eq_false_iff_ne.2 fun h' => h h'.symm

/-- Something is seen of an upload in parts iff it is seen behind the stored parts, or when the session was opened,
unless it is seen of a stored part. -/
theorem exists_mem_course_iff {P : Exchange → Prop} {bucket key uploadId : String} {init : Exchange} {n : Nat}
    {taken : List Part} {xs : List Exchange}
    (h : ∀ number length data answer, ¬P ⟨.uploadPart bucket key uploadId number length data, .ok answer⟩) :
    (∃ x ∈ init :: (Part.uploads bucket key uploadId n taken ++ xs), P x) ↔ P init ∨ ∃ x ∈ xs, P x := by
  constructor
  · rintro ⟨x, hx, hP⟩
    rcases List.mem_cons.1 hx with rfl | hx
    · exact .inl hP
    · rcases List.mem_append.1 hx with hx | hx
      · obtain ⟨number, data, answer, rfl⟩ := Part.eq_of_mem_uploads hx
        exact absurd hP (h number _ data answer)
      · exact .inr ⟨x, hx, hP⟩
  · rintro (hP | ⟨x, hx, hP⟩)
    · exact ⟨init, List.mem_cons_self, hP⟩
    · exact ⟨x, List.mem_cons_of_mem _ (List.mem_append_right _ hx), hP⟩

/-! ## Accounts of a session -/

namespace Account

variable (a : Account) (session : UploadSession) (source : Source)

/-- The session was opened. -/
def Opened : Prop := ∃ x ∈ a.exchanges, x.opened = some session

/-- The session was completed. -/
def Completed : Prop := ∃ x ∈ a.exchanges, x.completes session = true

/-- The session was to be aborted. -/
def Aborted : Prop := ∃ x ∈ a.exchanges, x.aborts session = true

/-- No read was interrupted. -/
def ReadUninterrupted : Prop := ∀ reply ∈ source.replies a.reads, reply.interrupted = false

/-- No request was interrupted, unless it was one to abort the session. -/
def ServedUninterrupted : Prop := ∀ x ∈ a.exchanges, x.interrupted = true → x.request.method = .abortUpload

instance : Decidable (a.Opened session) := inferInstanceAs (Decidable (∃ x ∈ a.exchanges, _))

instance : Decidable (a.Completed session) := inferInstanceAs (Decidable (∃ x ∈ a.exchanges, _))

instance : Decidable (a.Aborted session) := inferInstanceAs (Decidable (∃ x ∈ a.exchanges, _))

instance : Decidable (a.ReadUninterrupted source) :=
  inferInstanceAs (Decidable (∀ reply ∈ source.replies a.reads, _))

instance : Decidable a.ServedUninterrupted := inferInstanceAs (Decidable (∀ x ∈ a.exchanges, _))

/-- No read and no request was interrupted. -/
structure Uninterrupted : Prop where
  read : a.ReadUninterrupted source
  served : ∀ x ∈ a.exchanges, x.interrupted = false

end Account

section Endings

variable {bucket key : String} {contentType : Option String} {partSize : Int} {source : Source} {ending : Ending}
  {a : Account}

theorem Course.ending_eq (h : Course bucket key contentType partSize source ending a) : ending = a.ending := by
  have ha : ∀ id taken, made .abortUpload (Part.uploads bucket key id 1 taken) = false :=
    fun id => made_uploads (by decide) bucket key id 1
  have hc : ∀ id taken, made .completeUpload (Part.uploads bucket key id 1 taken) = false :=
    fun id => made_uploads (by decide) bucket key id 1
  cases h with
  | notOpened => rfl
  | unsplit => rfl
  | broken _ hb =>
    cases hb <;> simp only [Account.ending, made_cons, made_append, ha, hc] <;> rfl
  | closed _ _ _ hx =>
    cases hx with
    | completed => rfl
    | notCompleted => simp only [Account.ending, made_cons, made_append, ha, hc]; rfl
    | interrupted => simp only [Account.ending, made_cons, made_append, ha, hc]; rfl

theorem Course.exists_opened_iff (h : Course bucket key contentType partSize source ending a) :
    (∃ session, a.Opened session) ↔ ending ≠ .notOpened := by
  cases h with
  | notOpened => simp [Account.Opened, Exchange.opened]
  | unsplit => simp [Account.Opened, Exchange.opened]
  | @broken session _ _ _ _ _ _ hb =>
    refine iff_of_true ⟨session, _, List.mem_cons_self, rfl⟩ ?_
    cases hb <;> exact nofun
  | @closed session _ _ _ _ _ _ _ hc =>
    refine iff_of_true ⟨session, _, List.mem_cons_self, rfl⟩ ?_
    cases hc <;> exact nofun

variable {session : UploadSession}

theorem opened_of_failed (request : Request) (e : Failure) : Exchange.opened ⟨request, .error e⟩ = none := by
  cases request <;> rfl

theorem Breaks.opened_eq_none {n : Nat} {pulls : List Pull} {taken : List Part} {reads : List Nat}
    {xs : List Exchange} {e : Failure} (h : Breaks bucket key session n pulls taken ending reads xs e) :
    ∀ x ∈ xs, x.opened = none :=
  h.forall_mem opened_of_failed fun _ => rfl

theorem Closes.opened_eq_none {parts : List CompletedPart} {xs : List Exchange} {result : Except Failure String}
    (h : Closes bucket key session parts ending xs result) : ∀ x ∈ xs, x.opened = none := by
  rcases h.forall_mem (P := fun x => x.opened = none) opened_of_failed fun _ => rfl with
    ⟨e, -, h⟩ | ⟨tag, -, rfl⟩
  · exact h
  · exact List.forall_mem_singleton.2 rfl

/-- The session of an upload in parts is the one that its first request opened. -/
theorem eq_of_opened {session' : UploadSession} {n : Nat} {taken : List Part} {reads : List Nat} {xs : List Exchange}
    {result : Except Failure String}
    (ho : Account.Opened ⟨reads, ⟨.initUpload bucket key contentType, .ok session'⟩ ::
      (Part.uploads bucket key session'.uploadId n taken ++ xs), result⟩ session)
    (hx : ∀ x ∈ xs, x.opened = none) : session' = session := by
  rw [Account.Opened, exists_mem_course_iff fun _ _ _ _ => (Option.some_ne_none session).symm] at ho
  rcases ho with ho | ⟨x, hm, ho⟩
  · exact Option.some.inj ho
  · rw [hx x hm] at ho
    cases ho

/-- The session that was opened has been completed iff the upload ended so. -/
theorem Course.completed_iff (h : Course bucket key contentType partSize source ending a) (ho : a.Opened session) :
    a.Completed session ↔ ending = .completed := by
  cases h with
  | notOpened => simp [Account.Opened, Exchange.opened] at ho
  | unsplit => simp [Account.Completed, Exchange.completes]
  | broken _ hb =>
    rw [Account.Completed, exists_mem_course_iff fun _ _ _ _ => Bool.false_ne_true]
    cases hb <;> simp [Exchange.completes, abortion]
  | closed _ _ _ hc =>
    obtain rfl := eq_of_opened ho hc.opened_eq_none
    rw [Account.Completed, exists_mem_course_iff fun _ _ _ _ => Bool.false_ne_true]
    cases hc <;> simp [Exchange.completes, abortion]

/-- The session that was opened was to be aborted iff the upload failed in a part or in the completion. -/
theorem Course.aborted_iff (h : Course bucket key contentType partSize source ending a) (ho : a.Opened session) :
    a.Aborted session ↔ ending = .broken ∨ ending = .notCompleted := by
  cases h with
  | notOpened => simp [Account.Opened, Exchange.opened] at ho
  | unsplit => simp [Account.Aborted, Exchange.aborts]
  | broken _ hb =>
    obtain rfl := eq_of_opened ho hb.opened_eq_none
    rw [Account.Aborted, exists_mem_course_iff fun _ _ _ _ => Bool.false_ne_true]
    cases hb <;> simp [Exchange.aborts, abortion]
  | closed _ _ _ hc =>
    obtain rfl := eq_of_opened ho hc.opened_eq_none
    rw [Account.Aborted, exists_mem_course_iff fun _ _ _ _ => Bool.false_ne_true]
    cases hc <;> simp [Exchange.aborts, abortion]

/-- The reads of pulls that came to stored parts first are uninterrupted iff the other pulls are. -/
theorem replies_uninterrupted_iff {size n : Nat} {asked : List Pull} {taken : List Part} {others : List Piece}
    (hp : asked <+: source.pulls size) (hm : asked.map Pull.piece = Part.pieces n taken ++ others) :
    (∀ reply ∈ source.replies (asked.flatMap Pull.reads), reply.interrupted = false) ↔
      ∀ e, e.isInterrupt = true → Piece.interrupted e ∉ others := by
  have hpieces : ∀ e, Piece.interrupted e ∉ Part.pieces n taken := by
    intro e he
    obtain ⟨number, data, hpart⟩ := Part.eq_part_of_mem_pieces he
    cases hpart
  rw [Source.replies_uninterrupted_iff hp, hm]
  simp [hpieces]

theorem servedUninterrupted_iff : a.ServedUninterrupted ↔
    ¬∃ x ∈ a.exchanges, x.interrupted = true ∧ x.request.method ≠ .abortUpload := by
  simp [Account.ServedUninterrupted]

/-- The session that was opened has not been left open iff its source could be split and neither a read nor a request
was interrupted. -/
theorem Course.ne_leftOpen_iff (h : Course bucket key contentType partSize source ending a) (ho : a.Opened session) :
    ending ≠ .leftOpen ↔ 0 < partSize ∧ a.ReadUninterrupted source ∧ a.ServedUninterrupted := by
  rw [servedUninterrupted_iff]
  have hu : ∀ id number length data answer, ¬((⟨.uploadPart bucket key id number length data, .ok answer⟩ :
      Exchange).interrupted = true ∧ Method.uploadPart ≠ .abortUpload) := fun _ _ _ _ _ h => nomatch h.1
  cases h with
  | notOpened => simp [Account.Opened, Exchange.opened] at ho
  | unsplit h0 => simp [Int.not_lt.2 h0]
  | broken h0 hb =>
    rw [exists_mem_course_iff (hu _)]
    cases hb with
    | refused hp hm _ he =>
      simp [Account.ReadUninterrupted, replies_uninterrupted_iff hp hm, h0, Exchange.interrupted, he, abortion,
        Request.method]
    | unreadable hp hm _ he =>
      simp [Account.ReadUninterrupted, replies_uninterrupted_iff hp hm, h0, Exchange.interrupted, abortion,
        Request.method]
    | refusedByInterrupt hp hm _ he => simp [Exchange.interrupted, he, Request.method]
    | unreadByInterrupt hp hm he =>
      refine iff_of_false (fun h => h rfl) fun ⟨_, hr, _⟩ => ?_
      exact (replies_uninterrupted_iff hp hm).1 hr _ he List.mem_cons_self
  | closed h0 _ hall hc =>
    have hr : ∀ reply ∈ source.replies ((source.pulls partSize.toNat).flatMap Pull.reads),
        reply.interrupted = false := by
      rcases hall with hall | hall
      · have hall := hall.trans (List.append_nil _).symm
        exact (replies_uninterrupted_iff List.prefix_rfl hall).2 (by simp)
      · exact (replies_uninterrupted_iff List.prefix_rfl hall).2 (by simp)
    rw [exists_mem_course_iff (hu _)]
    cases hc with
    | completed => simpa [Account.ReadUninterrupted, h0, Exchange.interrupted] using hr
    | notCompleted he =>
      simpa [Account.ReadUninterrupted, h0, Exchange.interrupted, he, abortion, Request.method] using hr
    | interrupted he => simp [Exchange.interrupted, he, Request.method]

end Endings

/-- Without interrupts, an abortion does not change what the upload fails with. -/
theorem failureAfter_eq {session : UploadSession} {outcome : Except Failure Unit}
    (h : (abortion session outcome).interrupted = false) (failure : Failure) :
    failureAfter outcome failure = failure := by
  cases outcome with
  | ok _ => rfl
  | error e => exact if_neg (Bool.eq_false_iff.1 h)

end BucketClient.Upload

namespace BucketClient.Client

open Upload

variable {σ : Type} {client : Client σ} {name key : String} {size : Option Int} {source : Source}
  {contentType : Option String} {o : Observed σ}

/-- **The courses of an upload in parts.** Without interrupts, the upload of an object that is not below the part size
ends in exactly one of four ways, each as its course describes, and fails with no failure of the abortion. The session
is as the service names it; it need not be for the bucket and the key of the upload. -/
theorem existsUnique_ending {bucket : String} {n p : Int} (ha : Accepted name key size bucket n)
    (hp : client.partSize = some p) (h0 : 0 < p) (hn : p ≤ n)
    (hu : (client.account name key size source contentType o).Uninterrupted source) :
    (∃! ending, ending ≠ .leftOpen ∧
      Course bucket key contentType p source ending (client.account name key size source contentType o)) ∧
    ∀ session outcome failure,
      abortion session outcome ∈ (client.account name key size source contentType o).exchanges →
        failureAfter outcome failure = failure := by
  obtain ⟨-, h⟩ := client.createObject_creates name key size source contentType o
  generalize client.account name key size source contentType o = a at hu h
  refine ⟨?_, fun session outcome failure hx => failureAfter_eq (hu.served _ hx) failure⟩
  cases h with
  | refused hr =>
    rcases hr with hr | hr
    · exact absurd ha (hr bucket n)
    · cases hp.symm.trans hr
  | single ha' hp' hn' _ =>
    cases hp.symm.trans hp'
    cases ha.size_ok.symm.trans ha'.size_ok
    omega
  | @parts _ _ _ ending _ ha' hp' _ hc =>
    cases hp.symm.trans hp'
    cases ha.bucket_ok.symm.trans ha'.bucket_ok
    refine ⟨ending, ⟨?_, hc⟩, fun ending' h => h.2.ending_eq.trans hc.ending_eq.symm⟩
    intro hl
    obtain ⟨session, ho⟩ := hc.exists_opened_iff.2 (by rw [hl]; exact nofun)
    refine (hc.ne_leftOpen_iff ho).2 ⟨h0, hu.read, fun x hx hi => ?_⟩ hl
    rw [hu.served x hx] at hi
    cases hi

/-- A part is stored, and the read for the next one fails. -/
theorem existsUnique_ending_of_second_part :
    ∃! ending, ending ≠ .leftOpen ∧
      Course "b" "k" none 1 (.replaying [.block ⟨#[7]⟩, .failed (.raised .system none)]) ending
        (Client.account ⟨Memory.transport, {}, some 1⟩ " b " "k" (some 2)
          (.replaying [.block ⟨#[7]⟩, .failed (.raised .system none)]) none ⟨{}, [], {}⟩) := by
  have ha : Accepted " b " "k" (some 2) "b" 2 := ⟨rfl, rfl, rfl⟩
  exact (existsUnique_ending ha rfl (by decide) (by decide) ⟨by decide +kernel, by decide +kernel⟩).1

/-- **What becomes of a session.** A session that was opened has been completed or was to be aborted at the end of the
upload iff the part size is positive and no read was interrupted, and no request but the abortion. It never has been
completed if it was to be aborted. -/
theorem settled_iff {session : UploadSession}
    (ho : (client.account name key size source contentType o).Opened session) :
    ((client.account name key size source contentType o).Completed session ∨
        (client.account name key size source contentType o).Aborted session ↔
      (∃ p, client.partSize = some p ∧ 0 < p) ∧
        (client.account name key size source contentType o).ReadUninterrupted source ∧
        (client.account name key size source contentType o).ServedUninterrupted) ∧
    ¬((client.account name key size source contentType o).Completed session ∧
      (client.account name key size source contentType o).Aborted session) := by
  obtain ⟨-, h⟩ := client.createObject_creates name key size source contentType o
  generalize client.account name key size source contentType o = a at ho h
  cases h with
  | refused => simp [Account.Opened] at ho
  | single _ _ _ hs => cases hs <;> simp [Account.Opened, Exchange.opened] at ho
  | @parts _ _ p ending _ _ hp _ hc =>
    have hopened : ending ≠ .notOpened := hc.exists_opened_iff.1 ⟨session, ho⟩
    rw [hc.completed_iff ho, hc.aborted_iff ho]
    constructor
    · calc ending = .completed ∨ ending = .broken ∨ ending = .notCompleted
          ↔ ending ≠ .leftOpen := by cases ending <;> simp at hopened ⊢
        _ ↔ _ := hc.ne_leftOpen_iff ho
        _ ↔ _ := by simp [hp]
    · rintro ⟨rfl, h⟩
      rcases h with h | h <;> cases h

/-- A session whose only read fails. -/
theorem settled_of_failed_read :
    let a := Client.account ⟨Memory.transport, {}, some 1⟩ "b" "k" (some 1)
      (.replaying [.failed (.raised .system (some "no disk"))]) none ⟨{}, [], {}⟩
    a.Completed ⟨"mock-upload-1", "b", "k"⟩ ∨ a.Aborted ⟨"mock-upload-1", "b", "k"⟩ :=
  (settled_iff (by decide +kernel)).1.2 ⟨⟨1, rfl, by decide⟩, by decide +kernel, by decide +kernel⟩

/-- A session is left open by a part size of zero, and by an interrupt of its first read. -/
theorem opened_not_settled :
    (let a := Client.account ⟨Memory.transport, {}, some 0⟩ "b" "k" (some 0) .exhausted none ⟨{}, [], {}⟩
     a.Opened ⟨"mock-upload-1", "b", "k"⟩ ∧
       ¬(a.Completed ⟨"mock-upload-1", "b", "k"⟩ ∨ a.Aborted ⟨"mock-upload-1", "b", "k"⟩)) ∧
    let a := Client.account ⟨Memory.transport, {}, some 1⟩ "b" "k" (some 1)
      (.replaying [.failed (.raised .interrupt none)]) none ⟨{}, [], {}⟩
    a.Opened ⟨"mock-upload-1", "b", "k"⟩ ∧
      ¬(a.Completed ⟨"mock-upload-1", "b", "k"⟩ ∨ a.Aborted ⟨"mock-upload-1", "b", "k"⟩) := by
  constructor <;> decide +kernel

end BucketClient.Client
