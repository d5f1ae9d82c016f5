import BucketClient.Proofs.Part.Numbered
import BucketClient.Proofs.Upload.Account

/-!
# The courses of an upload

What an upload can be seen to do, over every transport and every source, interrupts included.

* `Course`: the accounts of an upload in parts. A session is refused, or opened and then left in one of four ways
  (`Ending`): completed; broken off in a part, or in its completion, and aborted; or left open. It is left open by an
  interrupt that comes from the source, from the upload of a part or from the completion, and by a part size that is
  not positive.
* `Creates`: the accounts of the creation of an object: refused arguments, one request, or a course.
* `createObject_creates`: the account of every creation is one of these, and its exchanges are a run of the transport.

The proof goes through the functions of an upload, one lemma for each. The one about the parts (`uploadParts_run`) is an
induction on the pulls of the source; its invariant is that the register lists the stored parts under the numbers
below the next one.
-/

namespace BucketClient.Upload

/-! ## Parts that have been taken -/

/-- A part that the service has taken: its bytes, and the answer to their upload. -/
structure Part where
  data : ByteArray
  answer : CompletedPart

namespace Part

/-- The taken parts as pieces of the source, numbered from `n` on. -/
def pieces : Nat → List Part → List Piece
  | _, [] => []
  | n, part :: rest => .part n part.data :: pieces (n + 1) rest

/-- The uploads of the taken parts, numbered from `n` on. -/
def uploads (bucket key uploadId : String) : Nat → List Part → List Exchange
  | _, [] => []
  | n, part :: rest =>
    ⟨.uploadPart bucket key uploadId n (some part.data.size) part.data, .ok part.answer⟩ ::
      uploads bucket key uploadId (n + 1) rest

/-- The taken parts as a completion lists them: each number, from `n` on, with the tag that the service answered. -/
def listed : Nat → List Part → List CompletedPart
  | _, [] => []
  | n, part :: rest => ⟨n, part.answer.tag⟩ :: listed (n + 1) rest

theorem eq_of_mem_uploads {bucket key uploadId : String} {n : Nat} {taken : List Part} {x : Exchange}
    (h : x ∈ uploads bucket key uploadId n taken) : ∃ (number : Int) (data : ByteArray) (answer : CompletedPart),
      x = ⟨.uploadPart bucket key uploadId number (some data.size) data, .ok answer⟩ := by
  induction taken generalizing n with
  | nil => cases h
  | cons part rest ih =>
    rcases List.mem_cons.1 h with rfl | h
    · exact ⟨n, part.data, part.answer, rfl⟩
    · exact ih h

theorem eq_part_of_mem_pieces {n : Nat} {taken : List Part} {piece : Piece} (h : piece ∈ pieces n taken) :
    ∃ number data, piece = .part number data := by
  induction taken generalizing n with
  | nil => cases h
  | cons part rest ih =>
    rcases List.mem_cons.1 h with rfl | h
    · exact ⟨n, part.data, rfl⟩
    · exact ih h

end Part

/-! ## Courses -/

/-- How an upload in parts ends. -/
inductive Ending where
  /-- The session was not opened. -/
  | notOpened
  /-- The session was completed. -/
  | completed
  /-- A part failed, and the session was to be aborted. -/
  | broken
  /-- The completion failed, and the session was to be aborted. -/
  | notCompleted
  /-- The session was neither completed nor to be aborted. -/
  | leftOpen
  deriving DecidableEq, Repr

/-- The request to abort a session, with how it ended. -/
def abortion (session : UploadSession) (outcome : Except Failure Unit) : Exchange :=
  ⟨.abortUpload session.bucket session.key session.uploadId, outcome⟩

/-- What an upload fails with when its session has been aborted: its failure, unless an interrupt came in between. -/
def failureAfter (outcome : Except Failure Unit) (failure : Failure) : Failure :=
  match outcome with
  | .error e => if e.isInterrupt then e else failure
  | .ok () => failure

/-- All parts of the source have been taken, numbered from `n` on. -/
def AllTaken (n : Nat) (pulls : List Pull) (taken : List Part) : Prop :=
  pulls.map Pull.piece = Part.pieces n taken ∨ pulls.map Pull.piece = Part.pieces n taken ++ [.finished]

section

variable (bucket key : String)

/-- How a session breaks off in its parts, which are numbered from `n` on, when `taken` have been stored: the ending,
the reads, the exchanges behind those of the stored parts, and the failure of the upload. -/
inductive Breaks (session : UploadSession) (n : Nat) (pulls : List Pull) (taken : List Part) :
    Ending → List Nat → List Exchange → Failure → Prop
  /-- The service failed the upload of the next part. -/
  | refused {asked : List Pull} {number : Nat} {data : ByteArray} {e : Failure} {outcome : Except Failure Unit} :
      asked <+: pulls → asked.map Pull.piece = Part.pieces n taken ++ [.part number data] →
      number = n + taken.length → e.isInterrupt = false →
      Breaks session n pulls taken .broken (asked.flatMap Pull.reads)
        [⟨.uploadPart bucket key session.uploadId number (some data.size) data, .error e⟩, abortion session outcome]
        (failureAfter outcome (.incompleteUpload bucket key session.uploadId (some number) e))
  /-- The source failed within the next part. -/
  | unreadable {asked : List Pull} {number : Nat} {cause : Failure} {outcome : Except Failure Unit} :
      asked <+: pulls →
      asked.map Pull.piece = Part.pieces n taken ++ [.unreadable number (.unreadablePart number cause)] →
      number = n + taken.length → cause.isInterrupt = false →
      Breaks session n pulls taken .broken (asked.flatMap Pull.reads) [abortion session outcome]
        (failureAfter outcome (.unreadablePart number cause))
  /-- The upload of the next part was interrupted. -/
  | refusedByInterrupt {asked : List Pull} {number : Nat} {data : ByteArray} {e : Failure} :
      asked <+: pulls → asked.map Pull.piece = Part.pieces n taken ++ [.part number data] →
      number = n + taken.length → e.isInterrupt = true →
      Breaks session n pulls taken .leftOpen (asked.flatMap Pull.reads)
        [⟨.uploadPart bucket key session.uploadId number (some data.size) data, .error e⟩] e
  /-- The source was interrupted within the next part. -/
  | unreadByInterrupt {asked : List Pull} {e : Failure} :
      asked <+: pulls → asked.map Pull.piece = Part.pieces n taken ++ [.interrupted e] → e.isInterrupt = true →
      Breaks session n pulls taken .leftOpen (asked.flatMap Pull.reads) [] e

/-- How a session ends whose parts are all stored: the ending, the exchanges, and the result of the upload. -/
inductive Closes (session : UploadSession) (parts : List CompletedPart) :
    Ending → List Exchange → Except Failure String → Prop
  | completed {tag : String} : Closes session parts .completed
      [⟨.completeUpload bucket key session.uploadId parts, .ok tag⟩] (.ok tag)
  | notCompleted {e : Failure} {outcome : Except Failure Unit} : e.isInterrupt = false →
      Closes session parts .notCompleted
        [⟨.completeUpload bucket key session.uploadId parts, .error e⟩, abortion session outcome]
        (.error (failureAfter outcome (.incompleteUpload bucket key session.uploadId none e)))
  | interrupted {e : Failure} : e.isInterrupt = true → Closes session parts .leftOpen
      [⟨.completeUpload bucket key session.uploadId parts, .error e⟩] (.error e)

variable {bucket key} in
/-- What holds of failed requests and of abortions holds of all exchanges behind the stored parts of a session that
breaks off. -/
theorem Breaks.forall_mem {P : Exchange → Prop} (hfailed : ∀ request e, P ⟨request, .error e⟩)
    {session : UploadSession} (habortion : ∀ outcome, P (abortion session outcome)) {n : Nat} {pulls : List Pull}
    {taken : List Part} {ending : Ending} {reads : List Nat} {xs : List Exchange} {e : Failure}
    (h : Breaks bucket key session n pulls taken ending reads xs e) : ∀ x ∈ xs, P x := by
  cases h with
  | refused => exact List.forall_mem_cons.2 ⟨hfailed _ _, List.forall_mem_singleton.2 (habortion _)⟩
  | unreadable => exact List.forall_mem_singleton.2 (habortion _)
  | refusedByInterrupt => exact List.forall_mem_singleton.2 (hfailed _ _)
  | unreadByInterrupt => exact List.forall_mem_nil _

variable {bucket key} in
/-- The same for the exchanges with which a session ends whose parts are stored, unless it is completed. -/
theorem Closes.forall_mem {P : Exchange → Prop} (hfailed : ∀ request e, P ⟨request, .error e⟩)
    {session : UploadSession} (habortion : ∀ outcome, P (abortion session outcome)) {parts : List CompletedPart}
    {ending : Ending} {xs : List Exchange} {result : Except Failure String}
    (h : Closes bucket key session parts ending xs result) :
    (∃ e, result = .error e ∧ ∀ x ∈ xs, P x) ∨
      ∃ tag, result = .ok tag ∧ xs = [⟨.completeUpload bucket key session.uploadId parts, .ok tag⟩] := by
  cases h with
  | completed => exact .inr ⟨_, rfl, rfl⟩
  | notCompleted =>
    exact .inl ⟨_, rfl, List.forall_mem_cons.2 ⟨hfailed _ _, List.forall_mem_singleton.2 (habortion _)⟩⟩
  | interrupted => exact .inl ⟨_, rfl, List.forall_mem_singleton.2 (hfailed _ _)⟩

variable (contentType : Option String)

/-- The accounts of an upload in parts, by how it ends. -/
inductive Course (partSize : Int) (source : Source) : Ending → Account → Prop
  /-- The service failed to open the session. -/
  | notOpened {e : Failure} : Course partSize source .notOpened
      ⟨[], [⟨.initUpload bucket key contentType, .error e⟩], .error e⟩
  /-- The source cannot be split into parts of this size. -/
  | unsplit {session : UploadSession} : partSize ≤ 0 → Course partSize source .leftOpen
      ⟨[], [⟨.initUpload bucket key contentType, .ok session⟩], .error (.value .partSize)⟩
  /-- Some parts were stored, numbered from 1 on, and the next one failed. -/
  | broken {session : UploadSession} {taken : List Part} {ending : Ending} {reads : List Nat} {xs : List Exchange}
      {e : Failure} : 0 < partSize →
      Breaks bucket key session 1 (source.pulls partSize.toNat) taken ending reads xs e →
      Course partSize source ending ⟨reads, ⟨.initUpload bucket key contentType, .ok session⟩ ::
        (Part.uploads bucket key session.uploadId 1 taken ++ xs), .error e⟩
  /-- All parts, at least one, were stored, numbered from 1 on, and the session was to be completed. -/
  | closed {session : UploadSession} {taken : List Part} {ending : Ending} {xs : List Exchange}
      {result : Except Failure String} : 0 < partSize → taken ≠ [] →
      AllTaken 1 (source.pulls partSize.toNat) taken →
      Closes bucket key session (Part.listed 1 taken) ending xs result →
      Course partSize source ending ⟨(source.pulls partSize.toNat).flatMap Pull.reads,
        ⟨.initUpload bucket key contentType, .ok session⟩ ::
          (Part.uploads bucket key session.uploadId 1 taken ++ xs), result⟩

/-- The accounts of an upload in one request, of what came of asking for the first part of the source. -/
inductive Single (pull : Pull) : Account → Prop
  | unread {e : Failure} : pull.piece.content = .error e → Single pull ⟨pull.reads, [], .error e⟩
  | put {data : ByteArray} {outcome : Except Failure String} : pull.piece.content = .ok data →
      Single pull ⟨pull.reads, [⟨.putObject bucket key (some data.size) data contentType, outcome⟩], outcome⟩

end

/-- The arguments of an upload pass their checks, with `bucket` as the name of the bucket and `n` as the size. -/
structure Accepted (name key : String) (size : Option Int) (bucket : String) (n : Int) : Prop where
  bucket_ok : Argument.bucket name = .ok bucket
  key_ok : Argument.key key = .ok key
  size_ok : Argument.size size = .ok n

/-- The accounts of the creation of an object. -/
inductive Creates (partSize : Option Int) (name key : String) (size : Option Int) (source : Source)
    (contentType : Option String) : Account → Prop
  | refused {e : Failure} : ((∀ bucket n, ¬Accepted name key size bucket n) ∨ partSize = none) →
      Creates partSize name key size source contentType ⟨[], [], .error e⟩
  | single {bucket : String} {n p : Int} {account : Account} : Accepted name key size bucket n → partSize = some p →
      n < p → Single bucket key contentType (source.firstPull p.toNat) account →
      Creates partSize name key size source contentType account
  | parts {bucket : String} {n p : Int} {ending : Ending} {account : Account} : Accepted name key size bucket n →
      partSize = some p → p ≤ n → Course bucket key contentType p source ending account →
      Creates partSize name key size source contentType account

/-! ## The lemmas of the functions of an upload -/

variable {σ : Type} (t : Transport σ) (settings : Settings) (bucket key : String)

@[simp] theorem transport_countUpload (mode : UploadMode) (outcome : UploadOutcome) (o : Observed σ) :
    (countUpload settings mode outcome o).transport = o.transport :=
  Observed.transport_count _ _ _ o

@[simp] theorem transport_countBytes (bytes : Nat) (o : Observed σ) :
    (countBytes settings bytes o).transport = o.transport := by
  unfold countBytes
  split
  · rfl
  · exact Observed.transport_count _ _ _ o

@[simp] theorem transport_countFailure (mode : UploadMode) (error : Failure) (o : Observed σ) :
    (countFailure settings mode error o).transport = o.transport := by
  unfold countFailure
  split
  · rfl
  · exact transport_countUpload settings mode .failed o

/-- An abortion is one exchange, after which the upload fails. -/
theorem abortAndFail_run {α : Type} (session : UploadSession) (part : Option Nat) (error failure : Failure)
    (o : Observed σ) :
    let left : Except Failure α × Observed σ := abortAndFail t settings session part error failure o
    ∃ outcome, t.Runs o.transport [abortion session outcome] left.2.transport ∧
      left.1 = .error (failureAfter outcome failure) := by
  unfold abortAndFail abort
  rcases h : o.perform t (.abortUpload session.bucket session.key session.uploadId) with ⟨outcome, o'⟩
  have hr : t.Runs o.transport [abortion session outcome] o'.transport := Observed.runs_perform h
  refine ⟨outcome, ?_⟩
  cases outcome with
  | ok _ => exact ⟨by simpa using hr, rfl⟩
  | error e => by_cases he : e.isInterrupt = true <;> exact ⟨by simpa [he] using hr, by simp [he, failureAfter]⟩

/-- A part with a number above all others is registered last. -/
theorem register_add_of_lt {register : Register} {part : CompletedPart}
    (h : ∀ p ∈ register.parts, p.number < part.number) :
    ∃ register', register.add part = .ok register' ∧ register'.parts = register.parts ++ [part] := by
  have hn : register.contains part.number = false :=
    Register.contains_eq_false_iff.2 fun p hp => by have := h p hp; omega
  have hp : ∀ {parts : List CompletedPart}, (∀ p ∈ parts, p.number < part.number) →
      Register.place part parts = parts ++ [part] := by
    intro parts h
    induction parts with
    | nil => rfl
    | cons p rest ih =>
      have := h p List.mem_cons_self
      rw [Register.place, if_neg (by omega), ih fun q hq => h q (List.mem_cons_of_mem p hq)]
      rfl
  unfold Register.add
  rw [dif_neg (by rw [hn]; simp)]
  exact ⟨_, rfl, hp h⟩

/-- The next part is registered behind those with lower numbers. -/
theorem register_add_next {register : Register} {n : Nat} (h : ∀ p ∈ register.parts, p.number < n) (tag : String) :
    ∃ register', register.add ⟨n, tag⟩ = .ok register' ∧ register'.parts = register.parts ++ [⟨n, tag⟩] ∧
      ∀ p ∈ register'.parts, p.number < (n + 1 : Nat) := by
  have hlast : ∀ p ∈ register.parts, p.number < (⟨n, tag⟩ : CompletedPart).number := h
  obtain ⟨register', hadd, hparts⟩ := register_add_of_lt hlast
  refine ⟨register', hadd, hparts, fun p hp => ?_⟩
  rw [hparts, List.mem_append, List.mem_singleton] at hp
  rcases hp with hp | rfl
  · have := h p hp
    omega
  · exact Int.ofNat_lt.2 (Nat.lt_succ_self n)

variable {bucket key}

theorem AllTaken.cons {n : Nat} {reads : List Nat} {rest : List Pull} {taken : List Part} (part : Part)
    (h : AllTaken (n + 1) rest taken) : AllTaken n (⟨reads, .part n part.data⟩ :: rest) (part :: taken) := by
  rcases h with h | h
  · exact .inl (by rw [List.map_cons, h]; rfl)
  · exact .inr (by rw [List.map_cons, h]; rfl)

/-- A session that breaks off behind a stored part breaks off as seen from that part. -/
theorem Breaks.cons {session : UploadSession} {n : Nat} {reads reads' : List Nat} {rest : List Pull}
    {taken : List Part} {ending : Ending} {xs : List Exchange} {e : Failure} (part : Part)
    (h : Breaks bucket key session (n + 1) rest taken ending reads' xs e) :
    Breaks bucket key session n (⟨reads, .part n part.data⟩ :: rest) (part :: taken) ending (reads ++ reads') xs
      e := by
  have hpieces : ∀ {asked : List Pull} {last : Piece}, asked.map Pull.piece = Part.pieces (n + 1) taken ++ [last] →
      (⟨reads, .part n part.data⟩ :: asked).map Pull.piece = Part.pieces n (part :: taken) ++ [last] :=
    fun h => by rw [List.map_cons, h]; rfl
  have hlength : ∀ {number : Nat}, number = n + 1 + taken.length → number = n + (part :: taken).length :=
    fun h => by rw [h, List.length_cons]; omega
  cases h with
  | refused hp hm hn he => exact .refused ((List.prefix_cons_inj _).2 hp) (hpieces hm) (hlength hn) he
  | unreadable hp hm hn he => exact .unreadable ((List.prefix_cons_inj _).2 hp) (hpieces hm) (hlength hn) he
  | refusedByInterrupt hp hm hn he =>
    exact .refusedByInterrupt ((List.prefix_cons_inj _).2 hp) (hpieces hm) (hlength hn) he
  | unreadByInterrupt hp hm he => exact .unreadByInterrupt ((List.prefix_cons_inj _).2 hp) (hpieces hm) he

variable (bucket key)

/-- **The parts of a session.** Either all are stored and the register lists them behind those it listed before, or
the session breaks off. -/
theorem uploadParts_run (session : UploadSession) {n : Nat} {pulls : List Pull} (hn : Split.Numbered n pulls)
    {register : Register} (hr : ∀ p ∈ register.parts, p.number < n) (bytes : Nat) (o : Observed σ) :
    let report := uploadParts t settings bucket key session pulls register bytes o
    ∃ taken,
      (∃ register' bytes', report.result = .ok (register', bytes') ∧
        register'.parts = register.parts ++ Part.listed n taken ∧ AllTaken n pulls taken ∧
        report.reads = pulls.flatMap Pull.reads ∧
        t.Runs o.transport (Part.uploads bucket key session.uploadId n taken) report.after.transport) ∨
      ∃ ending xs e, report.result = .error e ∧ Breaks bucket key session n pulls taken ending report.reads xs e ∧
        t.Runs o.transport (Part.uploads bucket key session.uploadId n taken ++ xs) report.after.transport := by
  induction hn generalizing register bytes o with
  | nil => exact ⟨[], .inl ⟨register, bytes, rfl, (List.append_nil _).symm, .inl rfl, rfl, rfl⟩⟩
  | finished =>
    exact ⟨[], .inl ⟨register, bytes, rfl, (List.append_nil _).symm, .inr rfl, (List.append_nil _).symm, rfl⟩⟩
  | @interrupted n reads e he =>
    have hb : Breaks bucket key session n [⟨reads, .interrupted e⟩] [] .leftOpen _ [] e :=
      .unreadByInterrupt List.prefix_rfl rfl he
    rw [List.flatMap_singleton] at hb
    exact ⟨[], .inr ⟨.leftOpen, [], e, rfl, hb, rfl⟩⟩
  | @unreadable n reads cause hc =>
    obtain ⟨outcome, hrun, hres⟩ := abortAndFail_run t settings session (some n) (.unreadablePart n cause)
      (.unreadablePart n cause) o
    have hb : Breaks bucket key session n [⟨reads, .unreadable n (.unreadablePart n cause)⟩] [] .broken _
        [abortion session outcome] _ := .unreadable List.prefix_rfl rfl rfl hc
    rw [List.flatMap_singleton] at hb
    exact ⟨[], .inr ⟨.broken, _, _, hres, hb, hrun⟩⟩
  | @part n reads data rest hrest ih =>
    rcases hp : o.perform t (.uploadPart bucket key session.uploadId n (some data.size) data) with ⟨answer, o'⟩
    have hrun := Observed.runs_perform hp
    have hfirst : [⟨reads, .part n data⟩] <+: ⟨reads, .part n data⟩ :: rest := ⟨rest, rfl⟩
    cases answer with
    | error e =>
      simp only [uploadParts, hp]
      cases he : e.isInterrupt with
      | true =>
        have hb : Breaks bucket key session n (⟨reads, .part n data⟩ :: rest) [] .leftOpen _ _ _ :=
          .refusedByInterrupt hfirst rfl rfl he
        rw [List.flatMap_singleton] at hb
        exact ⟨[], .inr ⟨.leftOpen, _, e, rfl, hb, hrun⟩⟩
      | false =>
        obtain ⟨outcome, hrun', hres⟩ := abortAndFail_run t settings session (some n) e
          (.incompleteUpload bucket key session.uploadId (some n) e) o'
        have hb : Breaks bucket key session n (⟨reads, .part n data⟩ :: rest) [] .broken _
            [_, abortion session outcome] _ := .refused hfirst rfl rfl he
        rw [List.flatMap_singleton] at hb
        exact ⟨[], .inr ⟨.broken, _, _, hres, hb, hrun.trans hrun'⟩⟩
    | ok stored =>
      -- the number is above those of the register, so the part is accepted and listed last
      obtain ⟨register', hadd, hparts, hr'⟩ := register_add_next hr stored.tag
      simp only [uploadParts, hp, hadd]
      obtain ⟨taken, h⟩ := ih hr' (bytes + data.size) (o'.count settings.counts .parts 1)
      rw [Observed.transport_count] at h
      refine ⟨⟨data, stored⟩ :: taken, ?_⟩
      rcases h with ⟨last, bytes', hres, hlast, hall, hreads, hmore⟩ | ⟨ending, xs, e, hres, hb, hmore⟩
      · refine .inl ⟨last, bytes', hres, ?_, hall.cons ⟨data, stored⟩, ?_, hrun.trans hmore⟩
        · rw [hlast, hparts, List.append_assoc]
          rfl
        · rw [hreads]
          rfl
      · exact .inr ⟨ending, xs, e, hres, hb.cons ⟨data, stored⟩, hrun.trans hmore⟩

/-- **The end of a session** whose parts are all stored. -/
theorem complete_run (session : UploadSession) (register : Register) (bytes : Nat) (o : Observed σ) :
    let left := complete t settings bucket key session register bytes o
    ∃ ending xs, t.Runs o.transport xs left.2.transport ∧
      Closes bucket key session register.parts ending xs left.1 := by
  unfold complete
  rcases hp : o.perform t (.completeUpload bucket key session.uploadId register.parts) with ⟨answer, o'⟩
  have hrun := Observed.runs_perform hp
  cases answer with
  | ok tag => exact ⟨.completed, _, by simpa using hrun, .completed⟩
  | error e =>
    cases he : e.isInterrupt with
    | true => exact ⟨.leftOpen, _, by simpa [he] using hrun, by simpa [he] using Closes.interrupted he⟩
    | false =>
      obtain ⟨outcome, hrun', hres⟩ := abortAndFail_run t settings session none e
        (.incompleteUpload bucket key session.uploadId none e) o'
      refine ⟨.notCompleted, _, by simpa [he] using hrun.trans hrun', ?_⟩
      simp only [he, Bool.false_eq_true, if_false]
      rw [hres]
      exact .notCompleted he

theorem taken_ne_nil {pulls : List Pull} {taken : List Part} (hn : Split.Numbered 1 pulls)
    (h : AllTaken 1 pulls taken) : taken ≠ [] := by
  rintro rfl
  cases hn with
  | nil h1 => omega
  | finished h1 => omega
  | part h1 => rcases h with h | h <;> simp [Part.pieces] at h
  | unreadable h1 => rcases h with h | h <;> simp [Part.pieces] at h
  | interrupted h1 => rcases h with h | h <;> simp [Part.pieces] at h

/-- **An upload in parts** takes a course. -/
theorem putParts_run (contentType : Option String) (partSize : Int) (source : Source) (o : Observed σ) :
    let report := putParts t settings bucket key contentType partSize source o
    ∃ ending xs, t.Runs o.transport xs report.after.transport ∧
      Course bucket key contentType partSize source ending ⟨report.reads, xs, report.result⟩ := by
  unfold putParts
  rcases hp : o.perform t (.initUpload bucket key contentType) with ⟨answer, o'⟩
  have hrun := Observed.runs_perform hp
  cases answer with
  | error e => exact ⟨.notOpened, _, by simpa using hrun, .notOpened⟩
  | ok session =>
    by_cases h0 : partSize ≤ 0
    · simp only [splitParts, if_pos h0]
      exact ⟨.leftOpen, _, hrun, .unsplit h0⟩
    · simp only [splitParts, if_neg h0]
      have hn := source.numbered_pulls partSize.toNat
      obtain ⟨taken, h⟩ := uploadParts_run t settings bucket key session hn
        (show ∀ p ∈ Register.empty.parts, p.number < ((1 : Nat) : Int) from fun p hp => by cases hp) 0 o'
      rcases hup : uploadParts t settings bucket key session (source.pulls partSize.toNat) .empty 0 o' with
        ⟨result, reads, o''⟩
      rw [hup] at h
      rcases h with ⟨register, bytes, hres, hparts, hall, hreads, hmore⟩ | ⟨ending, xs, e, hres, hb, hmore⟩
      · dsimp only at hres hreads hmore
        subst hres hreads
        obtain ⟨ending, xs, hend, hc⟩ := complete_run t settings bucket key session register bytes o''
        refine ⟨ending, _, hrun.trans (hmore.trans hend), ?_⟩
        rw [hparts] at hc
        exact .closed (by omega) (taken_ne_nil hn hall) hall hc
      · dsimp only at hres hb hmore
        subst hres
        exact ⟨ending, _, hrun.trans hmore, .broken (by omega) hb⟩

/-- **An upload in one request.** -/
theorem putSingle_run (contentType : Option String) (pull : Pull) (o : Observed σ) :
    let report := putSingle t settings bucket key contentType pull o
    ∃ xs, t.Runs o.transport xs report.after.transport ∧
      Single bucket key contentType pull ⟨report.reads, xs, report.result⟩ := by
  unfold putSingle
  cases hc : pull.piece.content with
  | error e => exact ⟨[], by simp [Transport.Runs], .unread hc⟩
  | ok data =>
    rcases hp : o.perform t (.putObject bucket key (some data.size) data contentType) with ⟨answer, o'⟩
    have hrun := Observed.runs_perform hp
    cases answer with
    | error e => exact ⟨_, by simpa [hp] using hrun, by simpa [hp] using Single.put hc⟩
    | ok tag => exact ⟨_, by simpa [hp] using hrun, by simpa [hp] using Single.put hc⟩

theorem key_eq_of_ok {key key' : String} (h : Argument.key key = .ok key') : key' = key := by
  unfold Argument.key at h
  split at h
  · cases h
  · exact (Except.ok.inj h).symm

/-- **The creation of an object.** -/
theorem create_run (partSize : Option Int) (name : String) (size : Option Int) (source : Source)
    (contentType : Option String) (o : Observed σ) :
    let report := create t settings partSize name key size source contentType o
    ∃ xs, t.Runs o.transport xs report.after.transport ∧
      Creates partSize name key size source contentType ⟨report.reads, xs, report.result⟩ := by
  unfold create
  cases hb : Argument.bucket name with
  | error e => exact ⟨[], rfl, .refused (.inl fun _ _ h => nomatch hb.symm.trans h.bucket_ok)⟩
  | ok bucket =>
    cases hk : Argument.key key with
    | error e => exact ⟨[], rfl, .refused (.inl fun _ _ h => nomatch hk.symm.trans h.key_ok)⟩
    | ok key' =>
      cases hs : Argument.size size with
      | error e => exact ⟨[], rfl, .refused (.inl fun _ _ h => nomatch hs.symm.trans h.size_ok)⟩
      | ok n =>
        obtain rfl := key_eq_of_ok hk
        have ha : Accepted name key' size bucket n := ⟨hb, hk, hs⟩
        cases partSize with
        | none => exact ⟨[], rfl, .refused (.inr rfl)⟩
        | some p =>
          by_cases hp : n < p
          · obtain ⟨xs, hrun, hsingle⟩ := putSingle_run t settings bucket key' contentType
              (source.firstPull p.toNat) o
            simp only [bind, Except.bind, pure, Except.pure, if_pos hp]
            exact ⟨xs, hrun, .single ha rfl hp hsingle⟩
          · obtain ⟨ending, xs, hrun, hcourse⟩ := putParts_run t settings bucket key' contentType p source o
            simp only [bind, Except.bind, pure, Except.pure, if_neg hp]
            exact ⟨xs, hrun, .parts ha rfl (by omega) hcourse⟩

end BucketClient.Upload

namespace BucketClient.Client

variable {σ : Type} (client : Client σ) (bucket key : String) (size : Option Int) (source : Source)
  (contentType : Option String) (o : Observed σ)

/-- **The account of a creation** is one of those described, and its exchanges are a run of the transport. -/
theorem createObject_creates :
    client.transport.Runs o.transport (client.account bucket key size source contentType o).exchanges
        (client.createObject bucket key size source contentType o).after.transport ∧
      Upload.Creates client.partSize bucket key size source contentType
        (client.account bucket key size source contentType o) := by
  have hrun : ∃ xs, client.traced.transport.Runs o.traced.transport xs
      (client.traced.createObject bucket key size source contentType o.traced).after.transport ∧
        Upload.Creates client.partSize bucket key size source contentType
          ⟨(client.traced.createObject bucket key size source contentType o.traced).reads, xs,
            (client.traced.createObject bucket key size source contentType o.traced).result⟩ :=
    Upload.create_run client.traced.transport client.settings key client.partSize bucket size source contentType
      o.traced
  unfold account
  rw [client.createObject_traced bucket key size source contentType o]
  generalize client.traced.createObject bucket key size source contentType o.traced = report at hrun ⊢
  obtain ⟨xs, hrun, h⟩ := hrun
  obtain ⟨hrun, hrecord⟩ := Transport.runs_of_traced hrun
  rw [show report.after.transport.2 = xs from hrecord]
  exact ⟨hrun, h⟩

end BucketClient.Client
