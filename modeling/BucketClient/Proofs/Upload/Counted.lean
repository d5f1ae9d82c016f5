import BucketClient.Proofs.Client.Command
import BucketClient.Proofs.Tally
import BucketClient.Proofs.Upload.Session

/-!
# What is counted of uploads

* `Account.tally`: how far the upload counters go up by an upload, read off what is seen of it. One upload is counted
  with its way and its outcome, unless it ended by an interrupt; the parts are those that the service has stored; the
  bytes are those that were declared to the service, if the upload returned.
* `create_tallies`: an upload counts so, over every transport and every source, if the part size is positive.
* `Creates.isInterrupt`: an upload fails by an interrupt only if a read or a request was interrupted.
* `count_callAll`: what is counted of creations that are made one after the other.

The proof goes through the functions of an upload again, one lemma for each; the one about the parts is an induction on
the pulls of the source. Each lemma finds the exchanges that lead the transport through the function, and says by how
much the counters have gone up in terms of these.
-/

namespace BucketClient

variable {σ : Type}

/-! ## What the counters are read off -/

/-- The number of bytes that a request declares for what is to be stored. -/
def Request.declared : Request → Nat
  | .putObject _ _ length _ _ | .uploadPart _ _ _ _ length _ => (length.getD 0).toNat
  | _ => 0

/-- Whether the request stored a part. -/
def Exchange.storesPart : Exchange → Bool
  | ⟨.uploadPart .., .ok _⟩ => true
  | _ => false

namespace Upload

/-- The number of parts that were stored. -/
def storedParts (xs : List Exchange) : Nat :=
  xs.countP Exchange.storesPart

/-- The number of bytes that were declared. -/
def declaredBytes : List Exchange → Nat
  | [] => 0
  | x :: xs => x.request.declared + declaredBytes xs

/-- How often a failure is counted: once, unless it is an interrupt. -/
def counted (e : Failure) : Nat :=
  if e.isInterrupt then 0 else 1

namespace Account

/-- The outcome of an upload. -/
def outcome (a : Account) : UploadOutcome :=
  match a.result with
  | .ok _ => .success
  | .error _ => if a.exchanges.any (·.opened.isSome) then .aborted else .failed

/-- How far each counter goes up by an upload. -/
def tally (mode : UploadMode) (a : Account) (counter : Counter) : Nat :=
  match a.result with
  | .ok _ => Counter.raise (.uploads mode .success) 1 counter +
      Counter.raise .parts (storedParts a.exchanges) counter + Counter.raise .bytes (declaredBytes a.exchanges) counter
  | .error e => Counter.raise (.uploads mode a.outcome) (counted e) counter +
      Counter.raise .parts (storedParts a.exchanges) counter

end Account

theorem storedParts_append (xs ys : List Exchange) : storedParts (xs ++ ys) = storedParts xs + storedParts ys :=
  List.countP_append

theorem declaredBytes_append (xs ys : List Exchange) :
    declaredBytes (xs ++ ys) = declaredBytes xs + declaredBytes ys := by
  induction xs with
  | nil => exact (Nat.zero_add _).symm
  | cons x xs ih => rw [List.cons_append, declaredBytes, ih, declaredBytes, Nat.add_assoc]

/-- To open a session stores nothing. -/
theorem storedParts_opening (bucket key : String) (contentType : Option String)
    (outcome : Except Failure UploadSession) (xs : List Exchange) :
    storedParts (⟨.initUpload bucket key contentType, outcome⟩ :: xs) = storedParts xs :=
  List.countP_cons_of_neg Bool.false_ne_true

theorem declaredBytes_opening (bucket key : String) (contentType : Option String)
    (outcome : Except Failure UploadSession) (xs : List Exchange) :
    declaredBytes (⟨.initUpload bucket key contentType, outcome⟩ :: xs) = declaredBytes xs :=
  Nat.zero_add _

/-! ## The functions of an upload -/

open Observed (Tallies tallies_zero tallies_count metrics_perform)

variable (t : Transport σ) (settings : Settings) (bucket key : String)

theorem tallies_countBytes (bytes : Nat) (o : Observed σ) :
    Tallies settings.counts o (countBytes settings bytes o) (Counter.raise .bytes bytes) := by
  unfold countBytes
  by_cases h : bytes = 0
  · rw [if_pos h, h]
    exact (tallies_zero rfl).congr fun other => (Counter.raise_zero .bytes other).symm
  · rw [if_neg h]
    exact tallies_count _ _ _ o

/-- An interrupt passes by the counters. -/
theorem tallies_interrupt (counter : Counter) {e : Failure} {o o' : Observed σ} (he : e.isInterrupt = true)
    (hm : o'.metrics = o.metrics) : Tallies settings.counts o o' (counter.raise (counted e)) := by
  rw [counted, if_pos he]
  exact (tallies_zero hm).congr fun other => (counter.raise_zero other).symm

theorem tallies_countFailure (mode : UploadMode) (e : Failure) (o : Observed σ) :
    Tallies settings.counts o (countFailure settings mode e o) (Counter.raise (.uploads mode .failed) (counted e)) := by
  unfold countFailure
  cases he : e.isInterrupt with
  | true => exact tallies_interrupt settings _ he rfl
  | false =>
    rw [counted, he]
    exact tallies_count _ _ _ o

/-- An abortion is counted, unless it is interrupted. -/
theorem abortAndFail_tallies {α : Type} (session : UploadSession) (part : Option Nat)
    (error failure : Failure) (hf : failure.isInterrupt = false) (o : Observed σ) :
    let left : Except Failure α × Observed σ := abortAndFail t settings session part error failure o
    ∃ outcome e, t.Runs o.transport [abortion session outcome] left.2.transport ∧ left.1 = .error e ∧
      Tallies settings.counts o left.2 (Counter.raise (.uploads .multipart .aborted) (counted e)) := by
  unfold abortAndFail abort
  rcases h : o.perform t (.abortUpload session.bucket session.key session.uploadId) with ⟨outcome, o'⟩
  have hr : t.Runs o.transport [abortion session outcome] o'.transport := Observed.runs_perform h
  have hm := metrics_perform h
  have haborted : ∀ record, Tallies settings.counts o (countUpload settings .multipart .aborted (o'.log record))
      (Counter.raise (.uploads .multipart .aborted) (counted failure)) := by
    intro record
    rw [counted, hf]
    exact (tallies_count settings.counts (.uploads .multipart .aborted) 1 (o'.log record)).congr_metrics hm rfl
  refine ⟨outcome, ?_⟩
  cases outcome with
  | ok _ => exact ⟨failure, by simpa using hr, rfl, haborted _⟩
  | error e =>
    cases he : e.isInterrupt with
    | true =>
      refine ⟨e, by simpa [he] using hr, by simp [he], ?_⟩
      simp only [he, if_true]
      exact tallies_interrupt settings _ he hm
    | false => exact ⟨failure, by simpa [he] using hr, by simp [he], by simpa [he] using haborted _⟩

/-- What is counted of the upload of parts, when `bytes` had been declared before. -/
def TalliesParts (settings : Settings) (bytes : Nat) (o : Observed σ) (xs : List Exchange)
    (report : Report σ (Register × Nat)) : Prop :=
  (∃ register, report.result = .ok (register, bytes + declaredBytes xs) ∧
      Tallies settings.counts o report.after (Counter.raise .parts (storedParts xs))) ∨
    ∃ e, report.result = .error e ∧ Tallies settings.counts o report.after fun counter =>
      Counter.raise (.uploads .multipart .aborted) (counted e) counter + Counter.raise .parts (storedParts xs) counter

/-- An exchange that stores no part and declares no bytes, before the upload fails. -/
theorem talliesParts_of_error {settings : Settings} {bytes : Nat} {o : Observed σ} {xs : List Exchange} {e : Failure}
    {report : Report σ (Register × Nat)} (hr : report.result = .error e) (hs : storedParts xs = 0)
    (ht : Tallies settings.counts o report.after (Counter.raise (.uploads .multipart .aborted) (counted e))) :
    TalliesParts settings bytes o xs report := by
  refine .inr ⟨e, hr, ht.congr fun counter => ?_⟩
  rw [hs, Counter.raise_zero, Nat.add_zero]

/-- A part that has been stored, before the others are uploaded. -/
theorem TalliesParts.cons {settings : Settings} {bytes : Nat} {o o₁ : Observed σ} {xs : List Exchange}
    {report : Report σ (Register × Nat)} (uploadId : String) (number : Int) (data : ByteArray)
    (answer : CompletedPart) (reads : List Nat) (hm : o₁.metrics = o.metrics)
    (h : TalliesParts settings (bytes + data.size) (o₁.count settings.counts .parts 1) xs report) :
    TalliesParts settings bytes o (⟨.uploadPart bucket key uploadId number (some data.size) data, .ok answer⟩ :: xs)
      { report with reads := reads } := by
  have hpart : Tallies settings.counts o (o₁.count settings.counts .parts 1) (Counter.raise .parts 1) :=
    (tallies_count _ _ _ o₁).congr_metrics hm rfl
  have hraise : ∀ counter, Counter.raise .parts 1 counter + Counter.raise .parts (storedParts xs) counter =
      Counter.raise .parts (storedParts (⟨.uploadPart bucket key uploadId number (some data.size) data,
        .ok answer⟩ :: xs)) counter := by
    intro counter
    simp only [Counter.raise, storedParts, List.countP_cons, Exchange.storesPart, if_true]
    split <;> omega
  have hbytes : declaredBytes (⟨.uploadPart bucket key uploadId number (some data.size) data, .ok answer⟩ :: xs) =
      data.size + declaredBytes xs := rfl
  rcases h with ⟨register, hr, ht⟩ | ⟨e, hr, ht⟩
  · refine .inl ⟨register, ?_, (hpart.trans ht).congr hraise⟩
    rw [hbytes, ← Nat.add_assoc]
    exact hr
  · refine .inr ⟨e, hr, (hpart.trans ht).congr fun counter => ?_⟩
    rw [← hraise, Nat.add_left_comm]

/-- **The parts that are stored are counted**, whatever becomes of their session. -/
theorem uploadParts_tallies (session : UploadSession) {n : Nat} {pulls : List Pull} (hn : Split.Numbered n pulls)
    {register : Register} (hr : ∀ p ∈ register.parts, p.number < n) (bytes : Nat) (o : Observed σ) :
    let report := uploadParts t settings bucket key session pulls register bytes o
    ∃ xs, t.Runs o.transport xs report.after.transport ∧ TalliesParts settings bytes o xs report := by
  have hstopped : ∀ {register : Register} {bytes : Nat} {reads : List Nat} {o : Observed σ},
      TalliesParts settings bytes o [] ⟨.ok (register, bytes), reads, o⟩ := by
    intro register bytes reads o
    exact .inl ⟨register, rfl, (tallies_zero rfl).congr fun counter => (Counter.raise_zero .parts counter).symm⟩
  induction hn generalizing register bytes o with
  | nil => exact ⟨[], rfl, hstopped⟩
  | finished => exact ⟨[], rfl, hstopped⟩
  | @interrupted n reads e he =>
    exact ⟨[], rfl, talliesParts_of_error rfl rfl (tallies_interrupt settings _ he rfl)⟩
  | @unreadable n reads cause hc =>
    obtain ⟨outcome, e, hrun, hres, ht⟩ := abortAndFail_tallies (α := Register × Nat) t settings session (some n)
      (.unreadablePart n cause) (.unreadablePart n cause) rfl o
    exact ⟨_, hrun, talliesParts_of_error hres rfl ht⟩
  | @part n reads data rest hrest ih =>
    rcases hp : o.perform t (.uploadPart bucket key session.uploadId n (some data.size) data) with ⟨answer, o'⟩
    have hrun := Observed.runs_perform hp
    have hm := metrics_perform hp
    cases answer with
    | error e =>
      simp only [uploadParts, hp]
      cases he : e.isInterrupt with
      | true =>
        exact ⟨_, hrun, talliesParts_of_error rfl rfl (tallies_interrupt settings _ he hm)⟩
      | false =>
        obtain ⟨outcome, e', hrun', hres, ht⟩ := abortAndFail_tallies (α := Register × Nat) t settings session (some n)
          e (.incompleteUpload bucket key session.uploadId (some n) e) rfl o'
        exact ⟨_, hrun.trans hrun', talliesParts_of_error hres rfl (ht.congr_metrics hm rfl)⟩
    | ok stored =>
      -- the number is above those of the register, so the part is accepted
      obtain ⟨register', hadd, -, hr'⟩ := register_add_next hr stored.tag
      simp only [uploadParts, hp, hadd]
      obtain ⟨xs, hmore, ht⟩ := ih hr' (bytes + data.size) (o'.count settings.counts .parts 1)
      rw [Observed.transport_count] at hmore
      exact ⟨_, hrun.trans hmore, ht.cons bucket key session.uploadId n data stored _ hm⟩

/-- The end of a session counts the upload, and the bytes if it is completed. -/
theorem complete_tallies (session : UploadSession) (register : Register) (bytes : Nat) (o : Observed σ) :
    let left := complete t settings bucket key session register bytes o
    ∃ xs, t.Runs o.transport xs left.2.transport ∧ storedParts xs = 0 ∧ declaredBytes xs = 0 ∧
      ((∃ tag, left.1 = .ok tag ∧ Tallies settings.counts o left.2 fun counter =>
          Counter.raise (.uploads .multipart .success) 1 counter + Counter.raise .bytes bytes counter) ∨
        ∃ e, left.1 = .error e ∧
          Tallies settings.counts o left.2 (Counter.raise (.uploads .multipart .aborted) (counted e))) := by
  unfold complete
  rcases hp : o.perform t (.completeUpload bucket key session.uploadId register.parts) with ⟨answer, o'⟩
  have hrun := Observed.runs_perform hp
  have hm := metrics_perform hp
  cases answer with
  | ok tag =>
    refine ⟨_, by simpa using hrun, rfl, rfl, .inl ⟨tag, rfl, ?_⟩⟩
    have hcounted := (tallies_count settings.counts (.uploads .multipart .success) 1 o').trans
      (tallies_countBytes settings bytes _)
    exact hcounted.congr_metrics hm rfl
  | error e =>
    cases he : e.isInterrupt with
    | true =>
      refine ⟨_, by simpa [he] using hrun, rfl, rfl, .inr ⟨e, by simp [he], ?_⟩⟩
      simp only [he, if_true]
      exact tallies_interrupt settings _ he hm
    | false =>
      obtain ⟨outcome, e', hrun', hres, ht⟩ := abortAndFail_tallies (α := String) t settings session none e
        (.incompleteUpload bucket key session.uploadId none e) rfl o'
      refine ⟨_, by simpa [he] using hrun.trans hrun', rfl, rfl, .inr ⟨e', by simpa [he] using hres, ?_⟩⟩
      simp only [he, Bool.false_eq_true, if_false]
      exact ht.congr_metrics hm rfl

/-- **An upload in parts counts itself**, once its source can be split. -/
theorem putParts_tallies (contentType : Option String) {partSize : Int} (h0 : 0 < partSize) (source : Source)
    (o : Observed σ) :
    let report := putParts t settings bucket key contentType partSize source o
    ∃ xs, t.Runs o.transport xs report.after.transport ∧
      Tallies settings.counts o report.after (Account.tally .multipart ⟨report.reads, xs, report.result⟩) := by
  unfold putParts
  rcases hp : o.perform t (.initUpload bucket key contentType) with ⟨answer, o'⟩
  have hrun := Observed.runs_perform hp
  have hm := metrics_perform hp
  cases answer with
  | error e =>
    refine ⟨_, by simpa using hrun, ?_⟩
    refine ((tallies_countFailure settings .multipart e o').congr_metrics hm rfl).congr fun counter => ?_
    simp [Account.tally, Account.outcome, Exchange.opened, storedParts, Exchange.storesPart, Counter.raise]
  | ok session =>
    simp only [splitParts, if_neg (Int.not_le.2 h0)]
    have hn := source.numbered_pulls partSize.toNat
    have houtcome : ∀ reads xs e, Account.outcome ⟨reads, ⟨.initUpload bucket key contentType, .ok session⟩ :: xs,
        .error e⟩ = .aborted := fun _ _ _ => rfl
    obtain ⟨xs, hmore, hparts⟩ := uploadParts_tallies t settings bucket key session hn
      (show ∀ p ∈ Register.empty.parts, p.number < ((1 : Nat) : Int) from fun p hp => by cases hp) 0 o'
    rcases hup : uploadParts t settings bucket key session (source.pulls partSize.toNat) .empty 0 o' with
      ⟨result, reads, o''⟩
    rw [hup] at hparts hmore
    rcases hparts with ⟨register, hres, ht⟩ | ⟨e, hres, ht⟩
    · dsimp only at hres hmore ht
      rw [Nat.zero_add] at hres
      subst hres
      obtain ⟨ys, hend, hs, hd, hlast⟩ := complete_tallies t settings bucket key session register (declaredBytes xs) o''
      refine ⟨_, hrun.trans (hmore.trans hend), ?_⟩
      have hstored : storedParts (xs ++ ys) = storedParts xs := by rw [storedParts_append, hs, Nat.add_zero]
      have hdeclared : declaredBytes (xs ++ ys) = declaredBytes xs := by rw [declaredBytes_append, hd, Nat.add_zero]
      rcases hlast with ⟨tag, hres, hlast⟩ | ⟨e, hres, hlast⟩
      · refine ((ht.congr_metrics hm rfl).trans hlast).congr fun counter => ?_
        simp only [Account.tally, hres, List.singleton_append, storedParts_opening, declaredBytes_opening, hstored,
          hdeclared]
        omega
      · refine ((ht.congr_metrics hm rfl).trans hlast).congr fun counter => ?_
        simp only [Account.tally, hres, List.singleton_append, storedParts_opening, hstored, houtcome]
        omega
    · dsimp only at hres
      subst hres
      refine ⟨_, hrun.trans hmore, (ht.congr_metrics hm rfl).congr fun counter => ?_⟩
      simp only [Account.tally, List.singleton_append, storedParts_opening, houtcome]

/-- **An upload in one request counts itself.** -/
theorem putSingle_tallies (contentType : Option String) (pull : Pull) (o : Observed σ) :
    let report := putSingle t settings bucket key contentType pull o
    ∃ xs, t.Runs o.transport xs report.after.transport ∧
      Tallies settings.counts o report.after (Account.tally .single ⟨report.reads, xs, report.result⟩) := by
  unfold putSingle
  cases hc : pull.piece.content with
  | error e =>
    refine ⟨[], by simp [Transport.Runs], (tallies_countFailure settings .single e o).congr fun counter => ?_⟩
    simp [Account.tally, Account.outcome, storedParts, Counter.raise]
  | ok data =>
    rcases hp : o.perform t (.putObject bucket key (some data.size) data contentType) with ⟨answer, o'⟩
    have hrun := Observed.runs_perform hp
    have hm := metrics_perform hp
    cases answer with
    | error e =>
      refine ⟨_, by simpa [hp] using hrun, ?_⟩
      simp only [hp]
      refine ((tallies_countFailure settings .single e o').congr_metrics hm rfl).congr fun counter => ?_
      simp [Account.tally, Account.outcome, Exchange.opened, storedParts, Exchange.storesPart, Counter.raise]
    | ok tag =>
      refine ⟨_, by simpa [hp] using hrun, ?_⟩
      simp only [hp]
      have hcounted := (tallies_count settings.counts (.uploads .single .success) 1 o').trans
        (tallies_countBytes settings data.size _)
      refine (hcounted.congr_metrics hm rfl).congr fun counter => ?_
      simp [Account.tally, storedParts, Exchange.storesPart, Counter.raise, declaredBytes, Request.declared]

/-- **The creation of an object counts itself.** -/
theorem create_tallies {p : Int} (h0 : 0 < p) {name : String} {size : Int}
    (hv : Text.strip name ≠ "" ∧ key ≠ "" ∧ 0 ≤ size) (source : Source) (contentType : Option String)
    (o : Observed σ) :
    let report := create t settings (some p) name key (some size) source contentType o
    ∃ xs, t.Runs o.transport xs report.after.transport ∧ Tallies settings.counts o report.after
      (Account.tally (if size < p then .single else .multipart) ⟨report.reads, xs, report.result⟩) := by
  obtain ⟨hb, hk, hs⟩ := hv
  unfold create
  rw [Argument.bucket_of_ne hb, Argument.key_of_ne hk, Argument.size, Argument.natural_of_nonneg hs]
  simp only [bind, Except.bind, pure, Except.pure]
  by_cases hp : size < p
  · rw [if_pos hp, if_pos hp]
    exact putSingle_tallies t settings _ key contentType _ o
  · rw [if_neg hp, if_neg hp]
    exact putParts_tallies t settings _ key contentType h0 source o

/-! ## Uploads without interrupts -/

variable {bucket key} {contentType : Option String} {source : Source} {a : Account}

/-- Without an interrupt of its reads, the first part of a source does not fail by one. -/
theorem isInterrupt_of_firstPull {size : Nat} {e : Failure}
    (hr : ∀ reply ∈ source.replies (source.firstPull size).reads, reply.interrupted = false)
    (he : (source.firstPull size).piece.content = .error e) : e.isInterrupt = false := by
  have hcons : source.firstPull size :: (source.pulls size).tail = source.pulls size := List.cons_head_tail _
  have hfirst : [source.firstPull size] <+: source.pulls size := ⟨_, hcons⟩
  have hn := source.numbered_pulls size
  rw [← hcons] at hn
  have hu := (Source.replies_uninterrupted_iff hfirst).1 (by rwa [List.flatMap_singleton])
  generalize source.firstPull size = pull at hn he hu
  generalize (source.pulls size).tail = rest at hn
  cases hn with
  | part | finished => cases he
  | unreadable =>
    cases he
    rfl
  | interrupted hi =>
    cases he
    exact absurd List.mem_cons_self (hu e hi)

/-- Without interrupts, an upload in parts does not fail by one. -/
theorem Course.isInterrupt {partSize : Int} {ending : Ending} {e : Failure}
    (h : Course bucket key contentType partSize source ending a) (hu : a.Uninterrupted source)
    (he : a.result = .error e) : e.isInterrupt = false := by
  have habortion : ∀ session {outcome failure}, abortion session outcome ∈ a.exchanges →
      failure.isInterrupt = false → (failureAfter outcome failure).isInterrupt = false := by
    intro session outcome failure hx hf
    rwa [failureAfter_eq (hu.served _ hx)]
  have hopened : ∀ {session}, a.Opened session → ending = .leftOpen → 0 < partSize → False := by
    intro session ho hl h0
    refine (h.ne_leftOpen_iff ho).2 ⟨h0, hu.read, fun x hx hi => ?_⟩ hl
    rw [hu.served x hx] at hi
    cases hi
  cases h with
  | notOpened =>
    cases he
    exact hu.served _ List.mem_cons_self
  | unsplit =>
    cases he
    rfl
  | @broken session _ _ _ _ _ h0 hb =>
    have ho := hopened ⟨_, List.mem_cons_self, rfl⟩
    cases hb with
    | refused =>
      cases he
      exact habortion session (by simp) rfl
    | unreadable =>
      cases he
      exact habortion session (by simp) rfl
    | refusedByInterrupt => exact (ho rfl h0).elim
    | unreadByInterrupt => exact (ho rfl h0).elim
  | @closed session _ _ _ _ h0 _ _ hc =>
    have ho := hopened ⟨_, List.mem_cons_self, rfl⟩
    cases hc with
    | completed => cases he
    | notCompleted =>
      cases he
      exact habortion session (by simp) rfl
    | interrupted => exact (ho rfl h0).elim

/-- Without interrupts, an upload whose arguments pass does not fail by one. -/
theorem Creates.isInterrupt {p : Int} {name : String} {size : Option Int} {n : Int} {e : Failure}
    (h : Creates (some p) name key size source contentType a) (ha : Accepted name key size bucket n)
    (hu : a.Uninterrupted source) (he : a.result = .error e) : e.isInterrupt = false := by
  cases h with
  | refused hr =>
    rcases hr with hr | hr
    · exact absurd ha (hr bucket n)
    · cases hr
  | single _ _ _ hs =>
    cases hs with
    | unread hc =>
      cases he
      exact isInterrupt_of_firstPull hu.read hc
    | put =>
      obtain rfl := he
      exact hu.served _ List.mem_cons_self
  | parts _ _ _ hc => exact hc.isInterrupt hu he

/-- What an upload adds to the counters if it does not fail by an interrupt. -/
theorem Account.tally_of_uninterrupted (h : ∀ e, a.result = .error e → e.isInterrupt = false) (mode : UploadMode) :
    (∀ mode' outcome, a.tally mode (.uploads mode' outcome) = if mode' = mode ∧ outcome = a.outcome then 1 else 0) ∧
      a.tally mode .parts = storedParts a.exchanges ∧
      a.tally mode .bytes =
        match a.result with
        | .ok _ => declaredBytes a.exchanges
        | .error _ => 0 := by
  cases hr : a.result with
  | ok tag => simp [tally, outcome, hr, Counter.raise]
  | error e => simp [tally, hr, Counter.raise, counted, h e hr]

end Upload

/-! ## One creation after the other -/

/-- The creation of an object, by its arguments. -/
structure Creation where
  bucket : String
  key : String
  size : Int
  source : Source
  contentType : Option String

namespace Creation

/-- The arguments pass their checks. -/
def Valid (c : Creation) : Prop :=
  Text.strip c.bucket ≠ "" ∧ c.key ≠ "" ∧ 0 ≤ c.size

instance (c : Creation) : Decidable c.Valid := inferInstanceAs (Decidable (_ ∧ _ ∧ _))

/-- The way of the upload. -/
def mode (p : Int) (c : Creation) : UploadMode :=
  if c.size < p then .single else .multipart

end Creation

/-- A creation with what is seen of it. -/
structure Call where
  creation : Creation
  account : Upload.Account

/-- How far each counter goes up by a creation. -/
def Call.increase (p : Int) (call : Call) (counter : Counter) : Nat :=
  if call.creation.Valid then call.account.tally (call.creation.mode p) counter else 0

/-- How far each counter goes up by several creations together. -/
def Call.increaseAll (p : Int) : List Call → Counter → Nat
  | [], _ => 0
  | call :: calls, counter => call.increase p counter + increaseAll p calls counter

namespace Client

open Upload Observed

variable (client : Client σ)

/-- A creation, and the state after it. -/
def call (c : Creation) (o : Observed σ) : Call × Observed σ :=
  (⟨c, client.account c.bucket c.key (some c.size) c.source c.contentType o⟩,
    (client.createObject c.bucket c.key (some c.size) c.source c.contentType o).after)

/-- Creations one after the other, and the state after the last one. -/
def callAll : List Creation → Observed σ → List Call × Observed σ
  | [], o => ([], o)
  | c :: cs, o => ((client.call c o).1 :: (callAll cs (client.call c o).2).1, (callAll cs (client.call c o).2).2)

variable {client} {p : Int}

theorem tallies_call (hp : client.partSize = some p) (h0 : 0 < p) (c : Creation) (o : Observed σ) :
    Tallies client.settings.counts o (client.call c o).2 ((client.call c o).1.increase p) := by
  by_cases hv : c.Valid
  · have hcreate : client.traced.createObject c.bucket c.key (some c.size) c.source c.contentType o.traced =
        create client.transport.traced client.settings (some p) c.bucket c.key (some c.size) c.source c.contentType
          o.traced := by
      rw [← hp]
      rfl
    have htraced := create_tallies client.transport.traced client.settings c.key h0 hv c.source c.contentType o.traced
    rw [call, account, client.createObject_traced c.bucket c.key (some c.size) c.source c.contentType o, hcreate]
    generalize create client.transport.traced client.settings (some p) c.bucket c.key (some c.size) c.source
      c.contentType o.traced = report at htraced ⊢
    obtain ⟨xs, hrun, ht⟩ := htraced
    rw [show report.after.transport.2 = xs from (Transport.runs_of_traced hrun).2]
    intro counter
    rw [Call.increase, if_pos hv]
    exact ht counter
  · obtain ⟨fault, hc⟩ := client.createObject_of_not (o := o) hv c.source c.contentType
    refine (tallies_zero ?_).congr fun counter => (if_neg hv).symm
    rw [call, hc]

theorem tallies_callAll (hp : client.partSize = some p) (h0 : 0 < p) (creations : List Creation) (o : Observed σ) :
    Tallies client.settings.counts o (client.callAll creations o).2
      (Call.increaseAll p (client.callAll creations o).1) := by
  induction creations generalizing o with
  | nil => exact tallies_zero rfl
  | cons c cs ih => exact (tallies_call hp h0 c o).trans (ih (client.call c o).2)

theorem creates_of_mem {creations : List Creation} {o : Observed σ} {call : Call}
    (h : call ∈ (client.callAll creations o).1) :
    Creates client.partSize call.creation.bucket call.creation.key (some call.creation.size) call.creation.source
      call.creation.contentType call.account := by
  induction creations generalizing o with
  | nil => cases h
  | cons c cs ih =>
    rcases List.mem_cons.1 h with rfl | h
    · exact (client.createObject_creates c.bucket c.key (some c.size) c.source c.contentType o).2
    · exact ih h

/-- **What is counted of creations** that are made one after the other, over any transport: each counter goes up by what
the creations add to it, or by nothing if counting is disabled. A creation whose arguments do not pass adds nothing.
Any other one that is not interrupted adds one to the uploads of its way and its outcome, and nothing to other uploads.
It adds the parts that the service has stored to the parts, and, if it returned, the bytes that were declared to the
service to the bytes. -/
theorem count_callAll (hp : client.partSize = some p) (h0 : 0 < p) (creations : List Creation) (o : Observed σ) :
    let (calls, after) := client.callAll creations o
    (∀ counter, after.metrics.count counter = o.metrics.count counter +
      if client.settings.counts then Call.increaseAll p calls counter else 0) ∧
    ∀ call ∈ calls,
      (¬call.creation.Valid → ∀ counter, call.increase p counter = 0) ∧
      (call.creation.Valid → call.account.Uninterrupted call.creation.source →
        (∀ mode outcome, call.increase p (.uploads mode outcome) =
          if mode = call.creation.mode p ∧ outcome = call.account.outcome then 1 else 0) ∧
        call.increase p .parts = storedParts call.account.exchanges ∧
        call.increase p .bytes =
          match call.account.result with
          | .ok _ => declaredBytes call.account.exchanges
          | .error _ => 0) := by
  refine ⟨tallies_callAll hp h0 creations o, fun call hc => ⟨fun hv counter => if_neg hv, fun hv hu => ?_⟩⟩
  obtain ⟨hb, hk, hs⟩ := hv
  have ha : Accepted call.creation.bucket call.creation.key (some call.creation.size) (Text.strip call.creation.bucket)
    call.creation.size := ⟨Argument.bucket_of_ne hb, Argument.key_of_ne hk, Argument.natural_of_nonneg hs⟩
  have hcreates := creates_of_mem hc
  rw [hp] at hcreates
  simp only [Call.increase, if_pos (show call.creation.Valid from ⟨hb, hk, hs⟩)]
  exact Account.tally_of_uninterrupted (fun e he => hcreates.isInterrupt ha hu he) _

/-- An object that is stored with one request, one whose source fails behind the first part, and one without a name. -/
def mixedCreations : List Creation :=
  [⟨"b", "k", 1, .ofBytes ⟨#[7]⟩, none⟩,
    ⟨"b", "l", 4, .replaying [.block ⟨#[1, 2]⟩, .block ⟨#[3]⟩, .failed (.raised .system none)], none⟩,
    ⟨"b", "", 1, .exhausted, none⟩]

/-- What is counted of them: each of the first two once, the part that was stored, and the byte of the first. -/
theorem count_callAll_of_mixed :
    let (calls, after) := Client.callAll ⟨Memory.transport, {}, some 2⟩ mixedCreations ⟨{}, [], {}⟩
    (∀ call ∈ calls, call.creation.Valid → call.account.Uninterrupted call.creation.source) ∧
      after.metrics.count (.uploads .single .success) = 1 ∧ after.metrics.count (.uploads .multipart .aborted) = 1 ∧
      after.metrics.count .parts = 1 ∧ after.metrics.count .bytes = 1 := by
  have hcount := (@count_callAll _ ⟨Memory.transport, {}, some 2⟩ 2 rfl (by decide) mixedCreations ⟨{}, [], {}⟩).1
  refine ⟨?_, (hcount _).trans ?_, (hcount _).trans ?_, (hcount _).trans ?_, (hcount _).trans ?_⟩
  · have hread : ∀ call ∈ (Client.callAll ⟨Memory.transport, {}, some 2⟩ mixedCreations ⟨{}, [], {}⟩).1,
        call.account.ReadUninterrupted call.creation.source ∧ ∀ x ∈ call.account.exchanges, x.interrupted = false := by
      decide +kernel
    exact fun call hc _ => ⟨(hread call hc).1, (hread call hc).2⟩
  all_goals decide +kernel

end Client

end BucketClient
