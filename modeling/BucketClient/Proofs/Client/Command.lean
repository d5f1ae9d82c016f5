import BucketClient.Proofs.Upload.Account

/-!
# Commands

The operations of a client as data: `Command` is one of them with its arguments, `Client.issue` carries it out, and
`Client.exchanges` is what then passes between the client and its transport. `Command.Valid` says of the arguments of a
command, all at once, what the checks of `Argument` test one by one (`issue_of_not_valid` and the lemmas before it).
-/

namespace BucketClient

variable {σ : Type}

/-- An operation of a client, with its arguments. -/
inductive Command where
  | createObject (bucket key : String) (size : Int) (source : Source) (contentType : Option String)
  | getObject (bucket key : String) (offset length : Int)
  | statObject (bucket key : String)
  | deleteObject (bucket key : String)
  | createBucket (bucket : String) (acl : Option String)
  | setBucketAcl (bucket : String) (acl : Option String)
  | statBucket (bucket : String)
  | deleteBucket (bucket : String)
  | listObjects (bucket stem : String) (recursive : Bool)
  | listBuckets

namespace Command

/-- The bucket that a command names. -/
def bucket? : Command → Option String
  | .createObject bucket .. | .getObject bucket .. | .statObject bucket _ | .deleteObject bucket _
  | .createBucket bucket _ | .setBucketAcl bucket _ | .statBucket bucket | .deleteBucket bucket
  | .listObjects bucket .. => some bucket
  | .listBuckets => none

/-- The key that a command names. -/
def key? : Command → Option String
  | .createObject _ key .. | .getObject _ key .. | .statObject _ key | .deleteObject _ key => some key
  | _ => none

/-- The numbers that a command is given. -/
def numbers : Command → List Int
  | .createObject _ _ size _ _ => [size]
  | .getObject _ _ offset length => [offset, length]
  | _ => []

/-- The access rule that a command is given. -/
def acl? : Command → Option (Option String)
  | .createBucket _ acl | .setBucketAcl _ acl => some acl
  | _ => none

/-- The arguments of a command pass: the bucket is not blank, the key is not empty, no number is negative, and the
access rule is a supported one when it is trimmed and in lower case. -/
structure Valid (command : Command) : Prop where
  bucket : ∀ bucket ∈ command.bucket?, Text.strip bucket ≠ ""
  key : ∀ key ∈ command.key?, key ≠ ""
  numbers : ∀ n ∈ command.numbers, 0 ≤ n
  acl : ∀ given ∈ command.acl?, ∃ acl : Acl, acl.name = Text.lower (Text.strip (given.getD ""))

section

variable {bucket key : String}

-- what a command names is read off it in all that follows
attribute [local simp] bucket? key? numbers acl?

theorem valid_iff {command : Command} : command.Valid ↔
    (∀ bucket ∈ command.bucket?, Text.strip bucket ≠ "") ∧ (∀ key ∈ command.key?, key ≠ "") ∧
      (∀ n ∈ command.numbers, 0 ≤ n) ∧
      ∀ given ∈ command.acl?, ∃ acl : Acl, acl.name = Text.lower (Text.strip (given.getD "")) :=
  ⟨fun h => ⟨h.bucket, h.key, h.numbers, h.acl⟩, fun ⟨hb, hk, hn, ha⟩ => ⟨hb, hk, hn, ha⟩⟩

theorem valid_createObject_iff {size : Int} {source : Source} {contentType : Option String} :
    (createObject bucket key size source contentType).Valid ↔ Text.strip bucket ≠ "" ∧ key ≠ "" ∧ 0 ≤ size := by
  simp [valid_iff]

theorem valid_getObject_iff {offset length : Int} : (getObject bucket key offset length).Valid ↔
    (Text.strip bucket ≠ "" ∧ key ≠ "") ∧ 0 ≤ offset ∧ 0 ≤ length := by
  simp [valid_iff, and_assoc]

theorem valid_statObject_iff : (statObject bucket key).Valid ↔ Text.strip bucket ≠ "" ∧ key ≠ "" := by
  simp [valid_iff]

theorem valid_deleteObject_iff : (deleteObject bucket key).Valid ↔ Text.strip bucket ≠ "" ∧ key ≠ "" := by
  simp [valid_iff]

theorem valid_createBucket_iff {given : Option String} : (createBucket bucket given).Valid ↔
    Text.strip bucket ≠ "" ∧ ∃ acl : Acl, acl.name = Text.lower (Text.strip (given.getD "")) := by
  simp [valid_iff]

theorem valid_setBucketAcl_iff {given : Option String} : (setBucketAcl bucket given).Valid ↔
    Text.strip bucket ≠ "" ∧ ∃ acl : Acl, acl.name = Text.lower (Text.strip (given.getD "")) := by
  simp [valid_iff]

theorem valid_statBucket_iff : (statBucket bucket).Valid ↔ Text.strip bucket ≠ "" := by
  simp [valid_iff]

theorem valid_deleteBucket_iff : (deleteBucket bucket).Valid ↔ Text.strip bucket ≠ "" := by
  simp [valid_iff]

theorem valid_listObjects_iff {stem : String} {recursive : Bool} :
    (listObjects bucket stem recursive).Valid ↔ Text.strip bucket ≠ "" := by
  simp [valid_iff]

theorem valid_listBuckets : listBuckets.Valid := by
  simp [valid_iff]

end

/-- What a command yields when it succeeds; a listing yields the walk through it. -/
@[reducible] def Yield (σ : Type) : Command → Type
  | .createObject .. => String
  | .getObject .. => Body × ObjectInfo
  | .statObject .. => ObjectInfo
  | .deleteObject .. | .createBucket .. | .setBucketAcl .. | .statBucket .. | .deleteBucket .. => Unit
  | .listObjects .. => Walk σ String ObjectInfo
  | .listBuckets => Walk σ Unit BucketInfo

end Command

/-- The report of an operation that reads from no source. -/
def Upload.Report.ofResult {α : Type} (result : Result σ α) : Upload.Report σ α :=
  ⟨result.1, [], result.2⟩

namespace Client

/-- Carries out a command. -/
def issue (client : Client σ) : (command : Command) → Observed σ → Upload.Report σ (command.Yield σ)
  | .createObject bucket key size source contentType, o =>
    client.createObject bucket key (some size) source contentType o
  | .getObject bucket key offset length, o => .ofResult (client.getObject bucket key (some offset) (some length) o)
  | .statObject bucket key, o => .ofResult (client.statObject bucket key o)
  | .deleteObject bucket key, o => .ofResult (client.deleteObject bucket key o)
  | .createBucket bucket acl, o => .ofResult (client.createBucket bucket acl o)
  | .setBucketAcl bucket acl, o => .ofResult (client.setBucketAcl bucket acl o)
  | .statBucket bucket, o => .ofResult (client.statBucket bucket o)
  | .deleteBucket bucket, o => .ofResult (client.deleteBucket bucket o)
  | .listObjects bucket stem recursive, o => .ofResult (client.listObjects bucket stem recursive, o)
  | .listBuckets, o => .ofResult (.ok client.listBuckets, o)

/-- The exchanges with the transport that a command makes before it returns. -/
def exchanges (client : Client σ) (command : Command) (o : Observed σ) : List Exchange :=
  (client.traced.issue command o.traced).after.transport.2

end Client

/-! ## The checks -/

namespace Argument

theorem bucket_of_blank {name : String} (h : Text.strip name = "") :
    Argument.bucket name = .error (.argument .blankBucket) := by
  rw [Argument.bucket, h]
  rfl

theorem bucket_of_ne {name : String} (h : Text.strip name ≠ "") : Argument.bucket name = .ok (Text.strip name) := by
  have hne : (Text.strip name).isEmpty = false := by simpa using h
  simp only [Argument.bucket, hne, Bool.false_eq_true, if_false]

theorem key_of_ne {key : String} (h : key ≠ "") : Argument.key key = .ok key := by
  have hne : key.isEmpty = false := by simpa using h
  simp only [Argument.key, hne, Bool.false_eq_true, if_false]

theorem natural_of_neg {fault : ArgumentFault} {n : Int} (h : n < 0) :
    natural fault (some n) = .error (.argument fault) := by
  rw [natural, if_pos h]

theorem natural_of_nonneg {fault : ArgumentFault} {n : Int} (h : 0 ≤ n) : natural fault (some n) = .ok n := by
  rw [natural, if_neg (Int.not_lt.2 h)]

theorem range_of_nonneg {offset length : Int} (ho : 0 ≤ offset) (hl : 0 ≤ length) :
    range (some offset) (some length) = .ok (offset, length) := by
  rw [range, natural_of_nonneg ho, natural_of_nonneg hl]
  rfl

theorem range_of_neg {offset length : Int} (h : offset < 0 ∨ length < 0) :
    range (some offset) (some length) = .error (.argument .negativeRange) := by
  by_cases ho : offset < 0
  · rw [range, natural_of_neg ho]
    rfl
  · rw [range, natural_of_nonneg (Int.not_lt.1 ho), natural_of_neg (h.resolve_left ho)]
    rfl

/-- An access rule is found by its name, trimmed and in lower case. -/
theorem ofName?_eq_some_iff {s : String} {acl : Acl} :
    Acl.ofName? s = some acl ↔ acl.name = Text.lower (Text.strip s) := by
  simp only [Acl.ofName?]
  generalize Text.lower (Text.strip s) = plain
  constructor
  · intro h
    have hname := List.find?_some h
    simpa using hname
  · intro h
    rw [← h]
    cases acl <;> decide

theorem acl_of_name {given : Option String} {acl : Acl} (h : acl.name = Text.lower (Text.strip (given.getD ""))) :
    Argument.acl given = .ok acl := by
  rw [Argument.acl, ofName?_eq_some_iff.2 h]

theorem acl_of_unsupported {given : Option String}
    (h : ¬∃ acl : Acl, acl.name = Text.lower (Text.strip (given.getD ""))) :
    Argument.acl given = .error (.argument (.unsupportedAcl given)) := by
  have hnone : Acl.ofName? (given.getD "") = none := by
    cases hfind : Acl.ofName? (given.getD "") with
    | none => rfl
    | some acl => exact absurd ⟨acl, ofName?_eq_some_iff.1 hfind⟩ h
  rw [Argument.acl, hnone]

end Argument

/-! ## Commands whose arguments do not pass -/

namespace Client

section

variable (client : Client σ) {α : Type} {name key : String} {o : Observed σ}

theorem onBucket_of_ne (h : Text.strip name ≠ "") (act : String → Result σ α) :
    onBucket name o act = act (Text.strip name) := by
  rw [onBucket, Argument.bucket_of_ne h]

theorem onBucket_of_blank (h : Text.strip name = "") (act : String → Result σ α) :
    onBucket name o act = (.error (.argument .blankBucket), o) := by
  rw [onBucket, Argument.bucket_of_blank h]

theorem onObject_of_ne (hb : Text.strip name ≠ "") (hk : key ≠ "") (act : String → String → Result σ α) :
    onObject name key o act = act (Text.strip name) key := by
  rw [onObject, onBucket_of_ne hb, Argument.key_of_ne hk]

/-- A blank bucket or an empty key is refused, whatever was to be done. -/
theorem onObject_of_not (h : ¬(Text.strip name ≠ "" ∧ key ≠ "")) (act : String → String → Result σ α) :
    ∃ fault, onObject name key o act = (.error (.argument fault), o) := by
  by_cases hb : Text.strip name = ""
  · exact ⟨_, onBucket_of_blank hb _⟩
  · have hk : key = "" := Classical.not_not.1 fun hk => h ⟨hb, hk⟩
    rw [onObject, onBucket_of_ne hb, hk]
    exact ⟨.emptyKey, rfl⟩

theorem onBucketAcl_of_name {given : Option String} {acl : Acl} (hb : Text.strip name ≠ "")
    (ha : acl.name = Text.lower (Text.strip (given.getD ""))) (act : String → Acl → Result σ Unit) :
    onBucketAcl name given o act = act (Text.strip name) acl := by
  rw [onBucketAcl, onBucket_of_ne hb, Argument.acl_of_name ha]

theorem onBucketAcl_of_not {given : Option String}
    (h : ¬(Text.strip name ≠ "" ∧ ∃ acl : Acl, acl.name = Text.lower (Text.strip (given.getD ""))))
    (act : String → Acl → Result σ Unit) :
    ∃ fault, onBucketAcl name given o act = (.error (.argument fault), o) := by
  by_cases hb : Text.strip name = ""
  · exact ⟨_, onBucket_of_blank hb _⟩
  · rw [onBucketAcl, onBucket_of_ne hb, Argument.acl_of_unsupported fun ha => h ⟨hb, ha⟩]
    exact ⟨_, rfl⟩

/-- An upload checks the bucket, the key and the size before anything else. -/
theorem createObject_of_not {size : Int} (h : ¬(Text.strip name ≠ "" ∧ key ≠ "" ∧ 0 ≤ size)) (source : Source)
    (contentType : Option String) :
    ∃ fault, client.createObject name key (some size) source contentType o = ⟨.error (.argument fault), [], o⟩ := by
  unfold createObject Upload.create
  by_cases hb : Text.strip name = ""
  · rw [Argument.bucket_of_blank hb]
    exact ⟨_, rfl⟩
  rw [Argument.bucket_of_ne hb]
  by_cases hk : key = ""
  · rw [hk]
    exact ⟨.emptyKey, rfl⟩
  rw [Argument.key_of_ne hk]
  have hs : size < 0 := Int.not_le.1 fun hs => h ⟨hb, hk, hs⟩
  rw [Argument.size, Argument.natural_of_neg hs]
  exact ⟨_, rfl⟩

end

/-- A command whose arguments do not pass does nothing but say so. -/
theorem issue_of_not_valid (client : Client σ) {command : Command} (h : ¬command.Valid) (o : Observed σ) :
    ∃ fault, client.issue command o = ⟨.error (.argument fault), [], o⟩ := by
  have hof : ∀ {α : Type} {result : Result σ α}, (∃ fault, result = (.error (.argument fault), o)) →
      ∃ fault, Upload.Report.ofResult result = ⟨.error (.argument fault), [], o⟩ := by
    rintro α _ ⟨fault, rfl⟩
    exact ⟨fault, rfl⟩
  cases command with
  | createObject name key size source contentType =>
    rw [Command.valid_createObject_iff] at h
    exact client.createObject_of_not h source contentType
  | getObject name key offset length =>
    rw [Command.valid_getObject_iff] at h
    refine hof ?_
    by_cases hv : Text.strip name ≠ "" ∧ key ≠ ""
    · have hn : offset < 0 ∨ length < 0 := by
        have hr : ¬(0 ≤ offset ∧ 0 ≤ length) := fun hr => h ⟨hv, hr⟩
        omega
      rw [getObject, onObject_of_ne hv.1 hv.2, Argument.range_of_neg hn]
      exact ⟨_, rfl⟩
    · exact onObject_of_not hv _
  | statObject name key =>
    rw [Command.valid_statObject_iff] at h
    exact hof (onObject_of_not h _)
  | deleteObject name key =>
    rw [Command.valid_deleteObject_iff] at h
    exact hof (onObject_of_not h _)
  | createBucket name given =>
    rw [Command.valid_createBucket_iff] at h
    exact hof (onBucketAcl_of_not h _)
  | setBucketAcl name given =>
    rw [Command.valid_setBucketAcl_iff] at h
    exact hof (onBucketAcl_of_not h _)
  | statBucket name =>
    rw [Command.valid_statBucket_iff, Classical.not_not] at h
    exact hof ⟨_, onBucket_of_blank h _⟩
  | deleteBucket name =>
    rw [Command.valid_deleteBucket_iff, Classical.not_not] at h
    exact hof ⟨_, onBucket_of_blank h _⟩
  | listObjects name stem recursive =>
    rw [Command.valid_listObjects_iff, Classical.not_not] at h
    refine hof ⟨.blankBucket, ?_⟩
    rw [listObjects, Argument.bucket_of_blank h]
    rfl
  | listBuckets => exact absurd Command.valid_listBuckets h

/-! ## Commands whose arguments pass -/

section

variable (client : Client σ) (o : Observed σ)

theorem issue_createObject (name key : String) (size : Int) (source : Source) (contentType : Option String) :
    client.issue (.createObject name key size source contentType) o =
      client.createObject name key (some size) source contentType o := by
  rw [issue]

theorem exchanges_createObject (name key : String) (size : Int) (source : Source) (contentType : Option String) :
    client.exchanges (.createObject name key size source contentType) o =
      (client.account name key (some size) source contentType o).exchanges := by
  rw [exchanges, issue, account]

variable {name key : String}

/-- The arguments of an upload that pass are accepted by it. -/
theorem accepted_of_valid {size : Int} {source : Source} {contentType : Option String}
    (h : (Command.createObject name key size source contentType).Valid) :
    Argument.bucket name = .ok (Text.strip name) ∧ Argument.key key = .ok key ∧
      Argument.size (some size) = .ok size := by
  obtain ⟨hb, hk, hs⟩ := Command.valid_createObject_iff.1 h
  exact ⟨Argument.bucket_of_ne hb, Argument.key_of_ne hk, Argument.natural_of_nonneg hs⟩

/-- Without a part size an upload fails when its size is compared with it. -/
theorem createObject_of_no_partSize (hp : client.partSize = none) {size : Int} {source : Source}
    {contentType : Option String} (h : (Command.createObject name key size source contentType).Valid) :
    client.createObject name key (some size) source contentType o = ⟨.error (.missingAfter "<"), [], o⟩ := by
  obtain ⟨hb, hk, hs⟩ := accepted_of_valid h
  unfold createObject Upload.create
  rw [hb, hk, hs, hp]
  rfl

/-- A read whose arguments are accepted asks the transport for the range. -/
theorem getObject_of_ok {bucket : String} {offset length : Int} (hb : Argument.bucket name = .ok bucket)
    (hk : Argument.key key = .ok key) (ho : 0 ≤ offset) (hl : 0 ≤ length) (o : Observed σ) :
    client.getObject name key (some offset) (some length) o =
      o.perform client.transport (.getObject bucket key (some offset) (some length)) := by
  simp only [getObject, onObject, onBucket, hb, hk, Argument.range_of_nonneg ho hl]

theorem statObject_of_ok {bucket : String} (hb : Argument.bucket name = .ok bucket) (hk : Argument.key key = .ok key)
    (o : Observed σ) : client.statObject name key o = o.perform client.transport (.headObject bucket key) := by
  simp only [statObject, onObject, onBucket, hb, hk]

theorem issue_getObject {offset length : Int} (h : (Command.getObject name key offset length).Valid) :
    client.issue (.getObject name key offset length) o =
      .ofResult (o.perform client.transport (.getObject (Text.strip name) key (some offset) (some length))) := by
  obtain ⟨⟨hb, hk⟩, ho, hl⟩ := Command.valid_getObject_iff.1 h
  simp only [issue, getObject_of_ok client (Argument.bucket_of_ne hb) (Argument.key_of_ne hk) ho hl]

theorem issue_statObject (h : (Command.statObject name key).Valid) : client.issue (.statObject name key) o =
    .ofResult (o.perform client.transport (.headObject (Text.strip name) key)) := by
  obtain ⟨hb, hk⟩ := Command.valid_statObject_iff.1 h
  simp only [issue, statObject_of_ok client (Argument.bucket_of_ne hb) (Argument.key_of_ne hk)]

theorem issue_deleteObject (h : (Command.deleteObject name key).Valid) : client.issue (.deleteObject name key) o =
    .ofResult (o.perform client.transport (.deleteObject (Text.strip name) key)) := by
  obtain ⟨hb, hk⟩ := Command.valid_deleteObject_iff.1 h
  simp only [issue, deleteObject, onObject_of_ne hb hk]

theorem issue_createBucket {given : Option String} (h : (Command.createBucket name given).Valid) :
    client.issue (.createBucket name given) o = .ofResult (o.perform client.transport
      (.putBucket (Text.strip name) (Text.lower (Text.strip (given.getD ""))))) := by
  obtain ⟨hb, acl, ha⟩ := Command.valid_createBucket_iff.1 h
  rw [← ha]
  simp only [issue, createBucket, onBucketAcl_of_name hb ha]

theorem issue_setBucketAcl {given : Option String} (h : (Command.setBucketAcl name given).Valid) :
    client.issue (.setBucketAcl name given) o = .ofResult (o.perform client.transport
      (.putBucketAcl (Text.strip name) (Text.lower (Text.strip (given.getD ""))))) := by
  obtain ⟨hb, acl, ha⟩ := Command.valid_setBucketAcl_iff.1 h
  rw [← ha]
  simp only [issue, setBucketAcl, onBucketAcl_of_name hb ha]

theorem issue_statBucket (h : (Command.statBucket name).Valid) : client.issue (.statBucket name) o =
    .ofResult (o.perform client.transport (.headBucket (Text.strip name))) := by
  have hb := Command.valid_statBucket_iff.1 h
  simp only [issue, statBucket, onBucket_of_ne hb]

theorem issue_deleteBucket (h : (Command.deleteBucket name).Valid) : client.issue (.deleteBucket name) o =
    .ofResult (o.perform client.transport (.deleteBucket (Text.strip name))) := by
  have hb := Command.valid_deleteBucket_iff.1 h
  simp only [issue, deleteBucket, onBucket_of_ne hb]

theorem listObjects_of_ne (hb : Text.strip name ≠ "") (stem : String) (recursive : Bool) :
    client.listObjects name stem recursive =
      .ok (Listing.objects client.transport client.settings (Text.strip name) stem recursive) := by
  rw [listObjects, Argument.bucket_of_ne hb]
  rfl

end

end Client

end BucketClient
