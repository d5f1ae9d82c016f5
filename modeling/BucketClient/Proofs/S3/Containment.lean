import BucketClient.Proofs.S3.Range
import BucketClient.S3.Scripted

/-!
# The failures that leave the transport

A request is contained when it makes one call and then is answered as declared, or fails by a storage failure, which has
the failure of the call as its cause if the call failed.

* `Response.Readable`: a response has what the answer to a request is made from, in the shapes it is made from.
  `Response.Declared`: what is passed on from it as it is has the type that the answer declares.
* `Converts`: a conversion succeeds exactly if a condition holds, and its value is as declared exactly if another one
  does. All conversions of responses are of this kind (`converts_objectInfo`, `converts_entries`), so a response settles
  a request iff it is readable and as declared (`settles_answer_iff`).
* `contained_iff`: a request is contained iff its range can be written and what its call comes to settles it.
-/

namespace BucketClient.S3

variable {τ : Type}

/-! ## Requests -/

/-- The numbers that a request gives. -/
def numbersOf : Request → List (Option Int)
  | .uploadPart _ _ _ _ length _ | .putObject _ _ length _ _ => [length]
  | .getObject _ _ offset length => [offset, length]
  | .listObjects _ maxKeys .. => [maxKeys]
  | _ => []

/-- The range of a request can be written, if it has one. -/
def WritableRequest : Request → Prop
  | .getObject _ _ (some offset) (some length) => Writable offset length
  | _ => True

/-- The number that the failure of a request names can be written, if it names one. -/
def NameableRequest : Request → Prop
  | .uploadPart _ _ _ number _ _ => Text.isWritable number = true
  | _ => True

section

variable (settings : Settings) {request : Request}

/-- A request without missing numbers makes the call of its operation. -/
theorem exists_callFor (hc : none ∉ numbersOf request)
    (hregion : settings.region = .null ∨ ∃ region, settings.region = .text region) (hw : WritableRequest request) :
    ∃ call, callFor settings request = .ok call ∧ call.method = request.method := by
  cases request with
  | uploadPart bucket key uploadId number length data =>
    cases length with
    | none => exact absurd List.mem_cons_self hc
    | some length => exact ⟨_, rfl, rfl⟩
  | putObject bucket key length data contentType =>
    cases length with
    | none => exact absurd List.mem_cons_self hc
    | some length => exact ⟨_, rfl, rfl⟩
  | getObject bucket key offset length =>
    cases offset with
    | none => exact absurd List.mem_cons_self hc
    | some offset => cases length with
      | none => exact absurd (List.mem_cons_of_mem _ List.mem_cons_self) hc
      | some length =>
        refine ⟨.getObject bucket key (ByteRange.of? offset length), ?_, rfl⟩
        rw [callFor, range?_of_writable hw]
        rfl
  | putBucket bucket acl =>
    rw [callFor, location?]
    rcases hregion with h | ⟨region, h⟩
    · rw [h]
      exact ⟨_, rfl, rfl⟩
    · rw [h]
      exact ⟨_, rfl, rfl⟩
  | listObjects bucket maxKeys marker stem delimiter =>
    cases maxKeys with
    | none => exact absurd List.mem_cons_self hc
    | some maxKeys => exact ⟨_, rfl, rfl⟩
  | _ => exact ⟨_, rfl, rfl⟩

theorem callFor_of_not_writable (hw : ¬WritableRequest request) :
    callFor settings request = .error (.value (.numeral .unwritable)) := by
  cases request with
  | getObject bucket key offset length =>
    cases offset with
    | none => exact absurd trivial hw
    | some offset => cases length with
      | none => exact absurd trivial hw
      | some length =>
        rw [callFor, range?_of_not_writable hw]
        rfl
  | _ => exact absurd trivial hw

/-- A call that the service failed becomes a storage failure, with the service's failure as its cause. -/
theorem refusal_storage {e : Failure} (h : e.isInterrupt = false) (hn : NameableRequest request) :
    (refusal request e).kind = .storage ∧ (refusal request e).cause? = some e := by
  by_cases hm : request.method = .uploadPart
  · cases request with
    | uploadPart bucket key uploadId number length data =>
      rw [refusal_uploadPart h, naming, if_pos (show Text.isWritable number = true from hn)]
      exact ⟨rfl, rfl⟩
    | _ => cases hm
  · rw [refusal_eq_refused h hm]
    exact ⟨rfl, rfl⟩

/-- The failure of an upload whose number cannot be written says only that. -/
theorem refusal_of_not_nameable {e : Failure} (h : e.isInterrupt = false) (hn : ¬NameableRequest request) :
    refusal request e = .value (.numeral .unwritable) := by
  cases request with
  | uploadPart bucket key uploadId number length data =>
    rw [refusal_uploadPart h, naming, if_neg (show ¬Text.isWritable number = true from hn)]
  | _ => exact absurd trivial hn

end

/-! ## Readable responses -/

/-- The value can be taken for a size: it is missing, a finite number, a truth value or the numeral of a number. -/
def IsSize : Value → Prop
  | .null | .int _ | .bool _ | .real (.finite _) => True
  | .text s => ∃ n, Text.readNumeral s = .ok n
  | _ => False

/-- The field has a text, if it counts as true. -/
def HasText (name : String) (fields : List (String × Value)) : Prop :=
  (Value.field name fields).truth = true → (Value.field name fields).isWritable = true

/-- The size that fields tell: a content length, or else a size. -/
def sizeField (fields : List (String × Value)) : Value :=
  ((fields.lookup "ContentLength").or (fields.lookup "Size")).getD .null

/-- The value is a record that has a field of this name with a text, and the condition holds of its fields. -/
def IsEntry (name : String) (condition : List (String × Value) → Prop) : Value → Prop
  | .record fields => (∃ value, fields.lookup name = some value ∧ value.isWritable = true) ∧ condition fields
  | _ => False

/-- The response lists entries under a name, of which the condition holds, or it has nothing there. -/
def Lists (name : String) (condition : Value → Prop) (response : Response) : Prop :=
  (Value.field name response.fields).truth = false ∨
    ∃ items, Value.field name response.fields = .list items ∧ ∀ entry ∈ items, condition entry

/-- The response has what the answer to a request is made from, and what becomes a text can be written. The name of a
session and the tag of a part are not among this: that they are missing is a storage failure, if the number of the part
can be written. -/
def Response.Readable (response : Response) : Request → Prop
  | .initUpload .. => HasText "UploadId" response.fields
  | .uploadPart _ _ _ number _ _ => HasText "ETag" response.fields ∧
      ((Value.field "ETag" response.fields).truth = false → Text.isWritable number = true)
  | .completeUpload .. | .putObject .. => HasText "ETag" response.fields
  | .getObject .. => response.body.isSome ∧ IsSize (sizeField response.fields)
  | .headObject .. => IsSize (sizeField response.fields)
  | .listObjects .. => Lists "Contents" (IsEntry "Key" fun fields => IsSize (sizeField fields)) response ∧
      HasText "NextMarker" response.fields
  | .listBuckets => Lists "Buckets" (IsEntry "Name" fun _ => True) response
  | _ => True

/-! ## Answers of the declared types

Some fields of a response are passed on as they are. -/

/-- The value is missing or a text. -/
def IsText : Value → Prop
  | .null | .text _ => True
  | _ => False

/-- The value is missing or a point in time. -/
def IsTime : Value → Prop
  | .null | .time _ _ => True
  | _ => False

/-- The body has bytes that can be read. -/
def HasBytes : Body → Prop
  | .bytes _ => True
  | .other _ => False

/-- The properties of an object have their declared types. -/
def DeclaresObject (info : ObjectInfo) : Prop :=
  IsText info.tag ∧ IsText info.contentType ∧ IsTime info.lastModified

/-- The answer to a request has its declared type. -/
def Declares : (request : Request) → request.Answer → Prop
  | .getObject .., (body, info) => HasBytes body ∧ DeclaresObject info
  | .headObject .., info => DeclaresObject info
  | .listObjects .., page => ∀ info ∈ page.entries, DeclaresObject info
  | .listBuckets, infos => ∀ info ∈ infos, IsTime info.createdAt
  | _, _ => True

/-- The fields that become properties of an object have the types of these. -/
def HasProperties (fields : List (String × Value)) : Prop :=
  IsText (Value.field "ETag" fields) ∧ IsText (Value.field "ContentType" fields) ∧
    IsTime (Value.field "LastModified" fields)

/-- The entries that a response lists under a name. -/
def Response.entries (name : String) (response : Response) : List Value :=
  match Value.field name response.fields with
  | .list items => items
  | _ => []

/-- The fields of the response that are passed on to the answer to a request have the types declared there. -/
def Response.Declared (response : Response) : Request → Prop
  | .getObject .. => (∀ body ∈ response.body, HasBytes body) ∧ HasProperties response.fields
  | .headObject .. => HasProperties response.fields
  | .listObjects .. => ∀ entry ∈ response.entries "Contents", HasProperties (fieldsOf entry)
  | .listBuckets => ∀ entry ∈ response.entries "Buckets", IsTime (Value.field "CreationDate" (fieldsOf entry))
  | _ => True

/-! ## Conversions -/

/-- The kinds of failure by which a conversion fails. -/
def conversionKinds : List Kind := [.key, .value, .type, .overflow]

theorem key_mem_conversionKinds : Kind.key ∈ conversionKinds := by decide

theorem value_mem_conversionKinds : Kind.value ∈ conversionKinds := by decide

theorem type_mem_conversionKinds : Kind.type ∈ conversionKinds := by decide

theorem overflow_mem_conversionKinds : Kind.overflow ∈ conversionKinds := by decide

/-- The result of a conversion that succeeds exactly if a condition holds, to a value of which `P` holds exactly if
another one does. -/
inductive Converts {α : Type} (P : α → Prop) (condition declared : Prop) : Except Failure α → Prop
  | ok {value : α} (h : condition) (hp : P value ↔ declared) : Converts P condition declared (.ok value)
  | error {e : Failure} (h : ¬condition) (hk : e.kind ∈ conversionKinds) : Converts P condition declared (.error e)

namespace Converts

variable {α β : Type} {P : α → Prop} {Q : β → Prop} {condition condition' declared declared' : Prop}
  {result : Except Failure α}

theorem congr (h : Converts P condition declared result) (hc : condition ↔ condition')
    (hd : declared ↔ declared') : Converts P condition' declared' result :=
  propext hc ▸ propext hd ▸ h

theorem map {f : α → β} (h : Converts P condition declared result) (hf : ∀ value, Q (f value) ↔ P value) :
    Converts Q condition declared (result >>= fun value => .ok (f value)) := by
  cases h with
  | ok h hp => exact .ok h ((hf _).trans hp)
  | error h hk => exact .error h hk

/-- What is passed on beside the value adds a condition to the declared ones. -/
theorem beside (h : Converts P condition declared result) (q : Prop) :
    Converts (fun value => q ∧ P value) condition (q ∧ declared) result := by
  cases h with
  | ok h hp => exact .ok h (and_congr_right fun _ => hp)
  | error h hk => exact .error h hk

/-- A conversion may be followed by another one. -/
theorem bind {γ : Type} {R : γ → Prop} {second : Except Failure β} {f : α → β → γ}
    (h : Converts P condition declared result) (h' : Converts Q condition' declared' second)
    (hf : ∀ value other, R (f value other) ↔ P value) :
    Converts R (condition ∧ condition') declared
      (result >>= fun value => second >>= fun other => .ok (f value other)) := by
  cases h with
  | error h hk => exact .error (fun hc => h hc.1) hk
  | ok h hp =>
    cases h' with
    | error h' hk => exact .error (fun hc => h' hc.2) hk
    | ok h' _ => exact .ok ⟨h, h'⟩ ((hf _ _).trans hp)

theorem mapM {f : α → Except Failure β} {condition declared : α → Prop}
    (hf : ∀ item, Converts Q (condition item) (declared item) (f item)) (items : List α) :
    Converts (fun values => ∀ value ∈ values, Q value) (∀ item ∈ items, condition item)
      (∀ item ∈ items, declared item) (items.mapM f) := by
  induction items with
  | nil => exact .ok (by simp) (by simp)
  | cons item rest ih =>
    rw [List.mapM_cons]
    simp only [List.forall_mem_cons]
    generalize f item = first, hf item = hfirst
    cases hfirst with
    | error h hk => exact .error (fun hc => h hc.1) hk
    | ok h hp =>
      generalize rest.mapM f = others at ih
      cases ih with
      | error h' hk => exact .error (fun hc => h' hc.2) hk
      | ok h' hp' => exact .ok ⟨h, h'⟩ (List.forall_mem_cons.trans (and_congr hp hp'))

theorem error_of_not (h : Converts P condition declared result) (hn : ¬condition) :
    ∃ e, result = .error e ∧ e.kind ∈ conversionKinds := by
  cases h with
  | ok h _ => exact absurd h hn
  | error _ hk => exact ⟨_, rfl, hk⟩

end Converts

theorem converts_textOrEmpty (name : String) (fields : List (String × Value)) :
    Converts (fun _ => True) (HasText name fields) True (Value.field name fields).textOrEmpty := by
  rcases (Value.field name fields).textOrEmpty_cases with ⟨hw, s, h⟩ | ⟨⟨ht, hw⟩, h⟩
  · rw [h]
    exact .ok hw Iff.rfl
  · rw [h]
    exact .error (fun hc => by simp [hc ht] at hw) value_mem_conversionKinds

theorem converts_toInt (declared : Prop) (v : Value) (hv : v ≠ .null) :
    Converts (fun _ => declared) (IsSize v) declared v.toInt := by
  cases v with
  | null => exact absurd rfl hv
  | int n => exact .ok trivial Iff.rfl
  | bool b => exact .ok trivial Iff.rfl
  | real x =>
    cases x with
    | finite d => exact .ok trivial Iff.rfl
    | infinite negative => exact .error id overflow_mem_conversionKinds
    | undefined => exact .error id value_mem_conversionKinds
  | text s =>
    rw [Value.toInt]
    cases h : Text.readNumeral s with
    | ok n => exact .ok ⟨n, h⟩ Iff.rfl
    | error fault => exact .error (fun ⟨n, hn⟩ => by rw [h] at hn; cases hn) value_mem_conversionKinds
  | _ => exact .error id type_mem_conversionKinds

/-- The size is the only property of an object that is converted. -/
theorem converts_objectInfo (key : String) (fields : List (String × Value)) :
    Converts DeclaresObject (IsSize (sizeField fields)) (HasProperties fields) (objectInfo key fields) := by
  unfold objectInfo
  rw [show ((fields.lookup "ContentLength").or (fields.lookup "Size")).getD .null = sizeField fields from rfl]
  generalize sizeField fields = v
  by_cases hv : v = .null
  · subst hv
    exact .ok trivial Iff.rfl
  · have h := (converts_toInt (HasProperties fields) v hv).map (f := fun size => (⟨key, size,
      Value.field "ETag" fields, Value.field "ContentType" fields, Value.field "LastModified" fields⟩ : ObjectInfo))
      (Q := DeclaresObject) fun _ => Iff.rfl
    cases v with
    | null => exact absurd rfl hv
    | _ => exact h

/-- A field with a text is required of an entry before anything else is done with it. -/
theorem converts_entry {α : Type} {P : α → Prop} {name : String} {condition declared : List (String × Value) → Prop}
    {f : String → List (String × Value) → Except Failure α}
    (hf : ∀ text fields, Converts P (condition fields) (declared fields) (f text fields)) (entry : Value) :
    Converts P (IsEntry name condition entry) (declared (fieldsOf entry))
      (entry.required name >>= fun value => value.plainText >>= fun text => f text (fieldsOf entry)) := by
  cases entry with
  | record fields =>
    simp only [Value.required, IsEntry]
    cases hl : fields.lookup name with
    | none => exact .error (by simp) key_mem_conversionKinds
    | some value =>
      simp only [Option.some.injEq, exists_eq_left']
      rcases value.plainText_cases with ⟨hw, text, h⟩ | ⟨hw, h⟩
      · rw [hw]
        show Converts P _ _ (value.plainText >>= fun text => f text fields)
        rw [h]
        exact (hf text fields).congr (by simp) Iff.rfl
      · show Converts P _ _ (value.plainText >>= fun text => f text fields)
        rw [h]
        exact .error (by simp [hw]) value_mem_conversionKinds
  | _ => exact .error id type_mem_conversionKinds

theorem converts_listedObject (entry : Value) :
    Converts DeclaresObject (IsEntry "Key" (fun fields => IsSize (sizeField fields)) entry)
      (HasProperties (fieldsOf entry)) (listedObject entry) :=
  converts_entry (f := objectInfo) converts_objectInfo entry

theorem converts_listedBucket (entry : Value) :
    Converts (fun info => IsTime info.createdAt) (IsEntry "Name" (fun _ => True) entry)
      (IsTime (Value.field "CreationDate" (fieldsOf entry))) (listedBucket entry) :=
  let bucket (name : String) (fields : List (String × Value)) : BucketInfo :=
    ⟨name, Value.field "CreationDate" fields⟩
  have hf : ∀ name fields, Converts (fun info : BucketInfo => IsTime info.createdAt) True
      (IsTime (Value.field "CreationDate" fields)) (.ok (bucket name fields)) := fun _ _ => .ok trivial Iff.rfl
  converts_entry (f := fun name fields => .ok (bucket name fields)) hf entry

theorem listed_of_truth {name : String} {response : Response} (h : (Value.field name response.fields).truth = true) :
    listed name response = (Value.field name response.fields).elements :=
  if_pos h

theorem listed_of_not_truth {name : String} {response : Response}
    (h : (Value.field name response.fields).truth = false) : listed name response = .ok [] :=
  if_neg (Bool.not_eq_true _ ▸ h)

/-- The entries of a response, converted one by one. A text or a record in their place is walked through as texts, and
a text is no entry. -/
theorem converts_entries {α : Type} {P : α → Prop} {f : Value → Except Failure α} {condition declared : Value → Prop}
    (hf : ∀ entry, Converts P (condition entry) (declared entry) (f entry)) (hn : ∀ s, ¬condition (.text s))
    (name : String) (response : Response) :
    Converts (fun values => ∀ value ∈ values, P value) (Lists name condition response)
      (∀ entry ∈ response.entries name, declared entry) (listed name response >>= fun entries => entries.mapM f) := by
  have htexts : ∀ {texts : List Value} {declared : Prop}, texts ≠ [] → (∀ entry ∈ texts, ∃ s, entry = .text s) →
      Converts (fun values => ∀ value ∈ values, P value) False declared (texts.mapM f) := by
    intro texts declared hne hs
    have hnot : ¬∀ entry ∈ texts, condition entry := by
      intro hall
      obtain ⟨entry, rest, rfl⟩ := List.exists_cons_of_ne_nil hne
      obtain ⟨s, rfl⟩ := hs entry List.mem_cons_self
      exact hn s (hall _ List.mem_cons_self)
    obtain ⟨e, he, hk⟩ := (Converts.mapM hf texts).error_of_not hnot
    rw [he]
    exact .error id hk
  unfold Lists Response.entries
  cases ht : (Value.field name response.fields).truth with
  | false =>
    rw [listed_of_not_truth ht]
    refine .ok (.inl rfl) ?_
    generalize Value.field name response.fields = v at ht
    cases v with
    | list items =>
      obtain rfl : items = [] := by simpa [Value.truth] using ht
      simp
    | _ => simp
  | true =>
    rw [listed_of_truth ht]
    generalize Value.field name response.fields = v at ht
    simp only [Bool.true_eq_false, false_or]
    cases v with
    | null => cases ht
    | text s =>
      have hne : s.toList.map (fun c => Value.text (String.singleton c)) ≠ [] := by
        simpa [Value.truth] using ht
      exact (htexts hne (by simp)).congr (by simp) Iff.rfl
    | list items =>
      refine (Converts.mapM hf items).congr ⟨fun h => ⟨items, rfl, h⟩, ?_⟩ Iff.rfl
      rintro ⟨items', h, hall⟩
      cases h
      exact hall
    | record fields =>
      have hne : fields.map (fun field => Value.text field.1) ≠ [] := by
        simpa [Value.truth] using ht
      have hnames : ∀ entry ∈ fields.map (fun field => Value.text field.1), ∃ s, entry = .text s := by
        intro entry hm
        obtain ⟨field, -, rfl⟩ := List.mem_map.1 hm
        exact ⟨field.1, rfl⟩
      exact (htexts hne hnames).congr (by simp) Iff.rfl
    | _ => exact .error (by simp) type_mem_conversionKinds

/-- A field that counts as true is converted to its text. -/
theorem converts_text {α : Type} {P : α → Prop} (f : String → α) (hf : ∀ text, P (f text)) {name : String}
    {response : Response} (missing : Failure) (ht : (Value.field name response.fields).truth = true) :
    Converts P (HasText name response.fields) True
      (if (Value.field name response.fields).truth then (Value.field name response.fields).plainText.map f
        else .error missing) := by
  rw [if_pos ht]
  rcases (Value.field name response.fields).plainText_cases with ⟨hw, s, h⟩ | ⟨hw, h⟩
  · rw [h]
    exact .ok (fun _ => hw) ⟨fun _ => trivial, fun _ => hf s⟩
  · rw [h]
    exact .error (fun hc => by simp [hc ht] at hw) value_mem_conversionKinds

/-- An answer is converted from a response, but a session without a name and a part without a tag are storage
failures. -/
theorem answer_cases (response : Response) (request : Request) :
    Converts (Declares request) (response.Readable request) (response.Declared request) (answer response request) ∨
      (response.Readable request ∧ response.Declared request) ∧
        ∃ fault, answer response request = .error (.storage fault) := by
  cases request with
  | initUpload bucket key contentType =>
    cases ht : (Value.field "UploadId" response.fields).truth with
    | true => exact .inl (converts_text _ (fun _ => trivial) _ ht)
    | false =>
      refine .inr ⟨⟨(fun h => by rw [ht] at h; cases h), trivial⟩, .missingUploadId, ?_⟩
      simp [answer, ht]
  | uploadPart bucket key uploadId number length data =>
    cases ht : (Value.field "ETag" response.fields).truth with
    | true => exact .inl ((converts_text _ (fun _ => trivial) _ ht).congr (by simp [Response.Readable, ht]) Iff.rfl)
    | false =>
      have htext : HasText "ETag" response.fields := fun h => by rw [ht] at h; cases h
      cases hn : Text.isWritable number with
      | true =>
        refine .inr ⟨⟨⟨htext, fun _ => hn⟩, trivial⟩, .missingPartTag number, ?_⟩
        simp [answer, ht, naming, hn]
      | false =>
        left
        rw [show answer response (.uploadPart bucket key uploadId number length data) =
          .error (.value (.numeral .unwritable)) by simp [answer, ht, naming, hn]]
        exact .error (fun h => by simp [h.2 ht] at hn) value_mem_conversionKinds
  | completeUpload bucket key uploadId parts => exact .inl (converts_textOrEmpty "ETag" response.fields)
  | putObject bucket key length data contentType => exact .inl (converts_textOrEmpty "ETag" response.fields)
  | getObject bucket key offset length =>
    left
    simp only [answer, Response.Readable, Response.Declared]
    cases response.body with
    | none => exact .error (by simp) key_mem_conversionKinds
    | some body =>
      have h := (converts_objectInfo key response.fields).beside (HasBytes body)
      exact (h.map (f := fun info => (body, info)) fun _ => Iff.rfl).congr (by simp) (by simp)
  | headObject bucket key => exact .inl (converts_objectInfo key response.fields)
  | listObjects bucket maxKeys marker stem delimiter =>
    left
    let page (entries : List ObjectInfo) (nextMarker : String) : Page String ObjectInfo :=
      { entries := entries
        truncated := (Value.field "IsTruncated" response.fields).truth
        nextMarker := nextMarker }
    have h := (converts_entries converts_listedObject (fun _ => id) "Contents" response).bind
      (converts_textOrEmpty "NextMarker" response.fields) (f := page)
      (R := fun page => ∀ info ∈ page.entries, DeclaresObject info) fun _ _ => Iff.rfl
    rw [bind_assoc] at h
    exact h
  | listBuckets => exact .inl (converts_entries converts_listedBucket (fun _ => id) "Buckets" response)
  | _ => exact .inl (.ok trivial Iff.rfl)

/-- An answer of the declared type, or a storage failure. -/
def Settles (request : Request) : request.Outcome → Prop
  | .ok value => Declares request value
  | .error e => e.kind = .storage

/-- A response settles a request if it is readable and the fields that are passed on have the declared types. -/
theorem settles_answer_iff (response : Response) (request : Request) :
    Settles request (answer response request) ↔ response.Readable request ∧ response.Declared request := by
  rcases answer_cases response request with hc | ⟨hr, fault, hf⟩
  · generalize answer response request = outcome at hc
    cases hc with
    | ok h hp => exact ⟨fun hd => ⟨h, hp.1 hd⟩, fun hd => hp.2 hd.2⟩
    | @error e h hk =>
      refine ⟨fun hs => ?_, fun hd => absurd hd.1 h⟩
      rw [show e.kind = .storage from hs] at hk
      cases List.elem_iff.2 hk
  · rw [hf]
    exact ⟨fun _ => hr, fun _ => rfl⟩

/-- An unreadable response gives a failure of another kind. -/
theorem answer_of_unreadable {response : Response} {request : Request} (h : ¬response.Readable request) :
    ∃ e, answer response request = .error e ∧ e.kind ∈ conversionKinds := by
  rcases answer_cases response request with hc | ⟨hr, -⟩
  · exact hc.error_of_not h
  · exact absurd hr.1 h

/-! ## Contained requests -/

/-- A request makes one call, of its operation, and then is answered as declared or fails by a storage failure. If the
call failed, so does the request, with the failure of the call as the cause. -/
def Contained (request : Request) (calls : List Sent) (outcome : request.Outcome) : Prop :=
  ∃ sent, calls = [sent] ∧ sent.call.method = request.method ∧ Settles request outcome ∧
    ∀ cause, sent.outcome = .error cause → ∃ e, outcome = .error e ∧ e.cause? = some cause

/-- What a call came to settles a request: a failure that can be told, or a response with all that is needed. -/
def Sent.Settles (sent : Sent) (request : Request) : Prop :=
  (∀ cause, sent.outcome = .error cause → NameableRequest request) ∧
    ∀ response, sent.outcome = .ok response → response.Readable request ∧ response.Declared request

/-- A request that made the call of its operation is contained if what the call came to settles it. -/
theorem contained_read_iff {sent : Sent} {request : Request} (hm : sent.call.method = request.method)
    (hi : sent.interrupted = false) : Contained request [sent] (sent.read request) ↔ sent.Settles request := by
  obtain ⟨call, outcome⟩ := sent
  cases outcome with
  | error cause =>
    constructor
    · rintro ⟨sent, -, -, hsettles, -⟩
      refine ⟨fun cause' _ => Classical.byContradiction fun hn => ?_, fun response h => (by cases h)⟩
      have hkind : (refusal request cause).kind = .storage := hsettles
      rw [refusal_of_not_nameable hi hn] at hkind
      cases hkind
    · intro h
      obtain ⟨hkind, hcause⟩ := refusal_storage hi (h.1 cause rfl)
      refine ⟨_, rfl, hm, hkind, fun cause' h => ⟨_, rfl, ?_⟩⟩
      cases h
      exact hcause
  | ok response =>
    constructor
    · rintro ⟨sent, -, -, hsettles, -⟩
      refine ⟨fun cause h => (by cases h), fun response' h => ?_⟩
      cases h
      exact (settles_answer_iff response request).1 hsettles
    · intro h
      exact ⟨_, rfl, hm, (settles_answer_iff response request).2 (h.2 response rfl), fun cause h => (by cases h)⟩

/-- **The requests that are contained**, over a service that raises no interrupt: those whose range can be written and
whose call fails with a failure that can be told, or has a readable response in which the fields that are passed on have
their declared types. When the range cannot be written, no call is made; when the call failed and its failure cannot be
told, the request fails by that; and when a response is not readable, it fails by another kind of failure than a storage
failure. -/
theorem contained_iff (settings : Settings) (service : Service τ) (s : τ) {request : Request}
    (hc : none ∉ numbersOf request) (hregion : settings.region = .null ∨ ∃ region, settings.region = .text region)
    (hu : ∀ sent ∈ sentFor settings service request s, sent.interrupted = false) :
    let calls := sentFor settings service request s
    let outcome := ((transport settings service).perform request s).1
    (Contained request calls outcome ↔ WritableRequest request ∧ ∀ sent ∈ calls, sent.Settles request) ∧
    (¬WritableRequest request → calls = [] ∧ outcome = .error (.value (.numeral .unwritable))) ∧
    (WritableRequest request → ∃ sent, calls = [sent] ∧ sent.call.method = request.method ∧
      (∀ cause, sent.outcome = .error cause → ¬NameableRequest request →
        outcome = .error (.value (.numeral .unwritable))) ∧
      ∀ response, sent.outcome = .ok response → ¬response.Readable request →
        ∃ e, outcome = .error e ∧ e.kind ∈ conversionKinds) := by
  by_cases hw : WritableRequest request
  · obtain ⟨call, hcall, hmethod⟩ := exists_callFor settings hc hregion hw
    obtain ⟨hsent, hperform⟩ := sentFor_of_ok service s hcall
    rw [hsent, List.forall_mem_singleton] at hu
    dsimp only
    rw [hsent, hperform, contained_read_iff hmethod hu, List.forall_mem_singleton]
    refine ⟨⟨fun h => ⟨hw, h⟩, And.right⟩, fun h => absurd hw h, fun _ => ⟨_, rfl, hmethod, fun cause he hn => ?_,
      fun response hr hread => ?_⟩⟩
    · rw [Sent.interrupted, he] at hu
      rw [Sent.read, he]
      exact congrArg Except.error (refusal_of_not_nameable hu hn)
    · rw [Sent.read, hr]
      exact answer_of_unreadable hread
  · obtain ⟨hsent, hperform⟩ := sentFor_of_error service s (callFor_of_not_writable settings hw)
    dsimp only
    rw [hsent, hperform]
    refine ⟨⟨?_, fun h => absurd h.1 hw⟩, fun _ => ⟨rfl, rfl⟩, fun h => absurd h hw⟩
    rintro ⟨sent, hs, -⟩
    cases hs

/-- A listing with a size that is a numeral is contained. -/
theorem contained_of_listed_numeral :
    let request := Request.listObjects "b" (some 1) (some "") (some "") (some "")
    let response : Response :=
      { fields := [("Contents", .list [.record [("Key", .text "k"), ("Size", .text " 12 ")]])] }
    let s : Scripted := { outcomes := [(.listObjects, .ok response)] }
    Contained request (sentFor {} scripted request s) ((transport {} scripted).perform request s).1 := by
  intro request response s
  have hu : ∀ sent ∈ sentFor {} scripted request s, sent.interrupted = false := by
    intro sent hm
    obtain rfl := List.mem_singleton.1 hm
    rfl
  refine (contained_iff {} scripted s (by decide) (.inr ⟨_, rfl⟩) hu).1.2 ⟨trivial, fun sent hm => ?_⟩
  obtain rfl := List.mem_singleton.1 hm
  refine ⟨fun _ _ => trivial, fun response' hr => ?_⟩
  obtain rfl : response = response' := Except.ok.inj hr
  refine ⟨⟨.inr ⟨_, rfl, fun entry hm => ?_⟩, fun h => (by cases h)⟩, fun entry hm => ?_⟩
  · obtain rfl := List.mem_singleton.1 hm
    exact ⟨⟨_, rfl, rfl⟩, 12, by rfl⟩
  · obtain rfl := List.mem_singleton.1 hm
    exact ⟨trivial, trivial, trivial⟩

/-- A response without a body is reported as a missing field, and not as a storage failure. -/
theorem not_contained_of_no_body :
    let request := Request.getObject "b" "k" (some 0) (some 0)
    let s : Scripted := { outcomes := [(.getObject, .ok {})] }
    ((transport {} scripted).perform request s).1 = .error (.missingField "Body") ∧
      ¬Contained request (sentFor {} scripted request s) ((transport {} scripted).perform request s).1 := by
  refine ⟨rfl, ?_⟩
  rintro ⟨sent, hs, -, hsettles, -⟩
  cases hsettles

end BucketClient.S3
