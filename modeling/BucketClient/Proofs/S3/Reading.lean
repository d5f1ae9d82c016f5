import BucketClient.Proofs.Memory.RoundTrip
import BucketClient.Proofs.S3.Range
import BucketClient.Proofs.S3.Sending

/-!
# Reading an object over either transport

The store in memory reads an object itself, the transport to an S3 service asks for a range of it.

* `getObject_selects`: the range that is asked for stands for the bytes that the store reads, unless it cannot be
  written; then nothing is asked for.
* `Service.Serves`: a service answers requests for an object as HTTP prescribes. What it tells of a read is told of the
  bytes in the body, so over such a service a read of less than the object reports a size that is not the size of the
  object (`size_getObject_iff`); the store in memory always reports the size of the object, and so does either transport
  when it is asked for the object's properties alone.
-/

namespace BucketClient.S3

variable {τ : Type}

/-! ## The bytes of a read -/

theorem callFor_getObject {offset length : Int} (h : Writable offset length) (settings : Settings)
    (bucket key : String) : callFor settings (.getObject bucket key (some offset) (some length)) =
      .ok (.getObject bucket key (ByteRange.of? offset length)) := by
  rw [callFor, range?_of_writable h]
  rfl

theorem callFor_getObject_of_not {offset length : Int} (h : ¬Writable offset length) (settings : Settings)
    (bucket key : String) : callFor settings (.getObject bucket key (some offset) (some length)) =
      .error (.value (.numeral .unwritable)) := by
  rw [callFor, range?_of_not_writable h]
  rfl

/-- **The two transports read the same bytes** of an object, from an offset within it on: the one call that is made asks
for a range that stands for the bytes that the store in memory reads. When the range has a position of too many digits,
no call is made. -/
theorem getObject_selects (settings : Settings) (service : Service τ) (s : τ) {store : Memory.Store}
    {bucket key : String} {object : Memory.StoredObject}
    (hf : store.faults.methods.get? Method.getObject.name = none)
    (ho : store.objects.get? (Memory.objectPath bucket key) = some object) (offset length : Nat)
    (hr : offset < object.data.size ∨ offset = 0 ∧ length = 0) :
    let request := Request.getObject bucket key (some offset) (some length)
    let bytes := object.data.extract offset (if length = 0 then object.data.size else offset + length)
    (Memory.transport.perform request store).1 = .ok (bytes, object.info key) ∧
      (Writable offset length → ∃ range outcome,
        sentFor settings service request s = [⟨.getObject bucket key range, outcome⟩] ∧
          selected ((Call.getObject bucket key range).text? "Range") object.data = some bytes) ∧
      (¬Writable offset length → sentFor settings service request s = [] ∧
        ((transport settings service).perform request s).1 = .error (.value (.numeral .unwritable))) := by
  refine ⟨Memory.Store.perform_getObject hf ho offset length, fun hw => ?_, fun hw => ?_⟩
  · refine ⟨_, _, (sentFor_of_ok service s (callFor_getObject hw settings bucket key)).1, ?_⟩
    rw [Call.text?_range]
    exact selected_range hr
  · exact sentFor_of_error service s (callFor_getObject_of_not hw settings bucket key)

theorem get?_addObject (store : Memory.Store) (bucket key : String) (data : ByteArray) :
    (store.addObject bucket key data).objects.get? (Memory.objectPath bucket key) =
      some ⟨bucket, key, data, Memory.payloadTag data, none⟩ :=
  Dictionary.get?_insert_self ..

/-- A read of five bytes from the second of three on comes to the last two, on either side. -/
theorem getObject_selects_of_short_object :
    let store := ({} : Memory.Store).addObject "b" "k" ⟨#[1, 2, 3]⟩
    let request := Request.getObject "b" "k" (some 1) (some 5)
    (∃ info, (Memory.transport.perform request store).1 = .ok (.bytes ⟨#[2, 3]⟩, info)) ∧
      ∃ range outcome, sentFor {} scripted request {} = [⟨.getObject "b" "k" range, outcome⟩] ∧
        selected ((Call.getObject "b" "k" range).text? "Range") ⟨#[1, 2, 3]⟩ = some ⟨#[2, 3]⟩ := by
  have ho := get?_addObject {} "b" "k" ⟨#[1, 2, 3]⟩
  obtain ⟨hread, hsent, -⟩ := getObject_selects {} scripted {} rfl ho 1 5 (by decide)
  exact ⟨⟨_, hread⟩, hsent (writable_iff.2 (lt_digitLimit (by decide)))⟩

/-- The last of three bytes is read from memory however many bytes are asked for; from a service, a range that ends at a
position of too many digits is not asked for at all. -/
theorem getObject_of_far_end :
    let store := ({} : Memory.Store).addObject "b" "k" ⟨#[1, 2, 3]⟩
    let request := Request.getObject "b" "k" (some 2) (some (digitLimit - 1 : Nat))
    (∃ info, (Memory.transport.perform request store).1 = .ok (.bytes ⟨#[3]⟩, info)) ∧
      sentFor {} scripted request {} = [] ∧
      ((transport {} scripted).perform request {}).1 = .error (.value (.numeral .unwritable)) := by
  have hlimit : 2 < digitLimit := lt_digitLimit (by decide)
  have hw : ¬Writable (2 : Nat) (digitLimit - 1 : Nat) := by
    rw [writable_iff]
    omega
  have hsize : (⟨#[1, 2, 3]⟩ : ByteArray).size ≤ 2 + (digitLimit - 1) := by
    show 3 ≤ _
    omega
  have hread := Memory.Store.perform_getObject rfl (get?_addObject {} "b" "k" ⟨#[1, 2, 3]⟩) 2 (digitLimit - 1)
  rw [if_neg (by omega), Split.extract_of_size_le hsize] at hread
  exact ⟨⟨_, hread⟩, sentFor_of_error _ _ (callFor_getObject_of_not hw {} "b" "k")⟩

/-! ## The size of an object that is read -/

/-- The text that tells which bytes of an object a response holds: the first and the last position of them, and the
size of the object. -/
def contentRange (first count size : Nat) : String :=
  "bytes " ++ toString first ++ "-" ++ toString (first + count - 1) ++ "/" ++ toString size

/-- A response to a read as HTTP prescribes it: the bytes are its body, its content length is their number, and if a
range was asked for, it tells where in the object they lie. -/
structure Response.Delivers (response : Response) (range : Option String) (data bytes : ByteArray) : Prop where
  body : response.body = some bytes
  length : response.fields.lookup "ContentLength" = some (.int bytes.size)
  range : ∀ text ∈ range, ∀ named ∈ readRange? text,
    response.fields.lookup "ContentRange" = some (.text (contentRange named.1 bytes.size data.size))

/-- A service answers requests for an object with these bytes as HTTP prescribes. A range that stands for no bytes is
refused. -/
structure Service.Serves (service : Service τ) (s : τ) (bucket key : String) (data : ByteArray) : Prop where
  head : ∃ response, (service.respond (.headObject bucket key) s).1 = .ok response ∧
    response.fields.lookup "ContentLength" = some (.int data.size)
  get : ∀ (range : Option ByteRange) (bytes : ByteArray), selected (range.map ByteRange.text) data = some bytes →
    ∃ response, (service.respond (.getObject bucket key range) s).1 = .ok response ∧
      response.Delivers (range.map ByteRange.text) data bytes
  refuse : ∀ range : Option ByteRange, selected (range.map ByteRange.text) data = none →
    ∃ e, (service.respond (.getObject bucket key range) s).1 = .error e ∧ e.isInterrupt = false

/-- An object is taken to be as large as the content length says. -/
theorem objectInfo_of_contentLength {fields : List (String × Value)} {n : Int}
    (h : fields.lookup "ContentLength" = some (.int n)) (key : String) :
    ∃ info, objectInfo key fields = .ok info ∧ info.size = n := by
  unfold objectInfo
  rw [h]
  exact ⟨_, rfl, rfl⟩

section

variable (settings : Settings) (partSize : Option Int) {service : Service τ} {name bucket key : String}
  {data : ByteArray} {o : Observed τ} (hb : Argument.bucket name = .ok bucket) (hk : Argument.key key = .ok key)
  (h : service.Serves o.transport bucket key data)

include hb hk h

/-- What is known of an object has its size. -/
theorem statObject_of_serves :
    ∃ info, ((client settings service partSize).statObject name key o).1 = .ok info ∧ info.size = data.size := by
  obtain ⟨response, hr, hlength⟩ := h.head
  obtain ⟨info, hinfo, hsize⟩ := objectInfo_of_contentLength hlength key
  have hsent := sentFor_of_ok service o.transport (show callFor settings (.headObject bucket key) = .ok _ from rfl)
  rw [hr] at hsent
  rw [Client.statObject_of_ok _ hb hk]
  exact ⟨info, hsent.2.trans hinfo, hsize⟩

/-- A read of a range that can be satisfied comes with the size of what is read. -/
theorem getObject_of_serves (offset length : Nat) (hr : offset < data.size ∨ offset = 0 ∧ length = 0)
    (hw : Writable offset length) :
    ∃ info, ((client settings service partSize).getObject name key (some offset) (some length) o).1 =
      .ok (data.extract offset (if length = 0 then data.size else offset + length), info) ∧
        info.size = (data.extract offset (if length = 0 then data.size else offset + length)).size := by
  obtain ⟨response, hresponse, hdelivers⟩ := h.get _ _ (selected_range hr)
  obtain ⟨info, hinfo, hsize⟩ := objectInfo_of_contentLength hdelivers.length key
  have hsent := sentFor_of_ok service o.transport (callFor_getObject hw settings bucket key)
  rw [hresponse] at hsent
  rw [Client.getObject_of_ok _ hb hk (Int.natCast_nonneg offset) (Int.natCast_nonneg length)]
  refine ⟨info, hsent.2.trans ?_, hsize⟩
  simp only [Sent.read, answer, hdelivers.body, hinfo]
  rfl

/-- A read fails if its range cannot be satisfied or cannot be written. -/
theorem getObject_of_not_serves {offset length : Nat}
    (hn : ¬((offset < data.size ∨ offset = 0 ∧ length = 0) ∧ Writable offset length)) :
    ∃ e, ((client settings service partSize).getObject name key (some offset) (some length) o).1 = .error e := by
  rw [Client.getObject_of_ok _ hb hk (Int.natCast_nonneg offset) (Int.natCast_nonneg length)]
  by_cases hw : Writable offset length
  · obtain ⟨e, he, -⟩ := h.refuse _ (selected_range_eq_none fun hr => hn ⟨hr, hw⟩)
    have hsent := sentFor_of_ok service o.transport (callFor_getObject hw settings bucket key)
    rw [he] at hsent
    exact ⟨_, hsent.2⟩
  · have hsent := sentFor_of_error service o.transport (callFor_getObject_of_not hw settings bucket key)
    exact ⟨_, hsent.2⟩

end

/-- A read gives as many bytes as the object has iff it starts at the first byte and is not cut off. -/
theorem size_extract_iff {data : ByteArray} {offset length : Nat} (h : offset < data.size ∨ offset = 0 ∧ length = 0) :
    (data.extract offset (if length = 0 then data.size else offset + length)).size = data.size ↔
      offset = 0 ∧ (length = 0 ∨ data.size ≤ length) := by
  rw [ByteArray.size_extract]
  split <;> omega

/-- **The size that comes with a read.** In memory it is the size of the object, and so is the size that is told when
the object's properties are asked for. Over a service that answers as HTTP prescribes, a read that returns, which it
does iff its range can be satisfied and written, comes with the number of the bytes that were read; this is the size of
the object iff the read covers all of it. -/
theorem size_getObject_iff (settings : Settings) (partSize : Option Int) {service : Service τ}
    {name bucket key : String} {object : Memory.StoredObject} (o o' : Observed τ) (m : Observed Memory.Store)
    (hb : Argument.bucket name = .ok bucket) (hk : Argument.key key = .ok key)
    (hs : service.Serves o.transport bucket key object.data) (hs' : service.Serves o'.transport bucket key object.data)
    (hf : m.transport.faults = {}) (hm : m.transport.objects.get? (Memory.objectPath bucket key) = some object)
    (offset length : Nat) :
    let c := client settings service partSize
    let memory := Memory.client settings partSize
    let bytes := object.data.extract offset (if length = 0 then object.data.size else offset + length)
    (∃ info, (memory.getObject name key (some offset) (some length) m).1 = .ok (bytes, info) ∧
      info.size = object.data.size) ∧
    (∃ info, (memory.statObject name key m).1 = .ok info ∧ info.size = object.data.size) ∧
    (∃ info, (c.statObject name key o').1 = .ok info ∧ info.size = object.data.size) ∧
    ((∃ read, (c.getObject name key (some offset) (some length) o).1 = .ok read) ↔
      (offset < object.data.size ∨ offset = 0 ∧ length = 0) ∧ Writable offset length) ∧
    ∀ read, (c.getObject name key (some offset) (some length) o).1 = .ok read →
      read.1 = bytes ∧ read.2.size = bytes.size ∧
        (read.2.size = object.data.size ↔ offset = 0 ∧ (length = 0 ∨ object.data.size ≤ length)) := by
  have hproper : ∀ {read}, ((client settings service partSize).getObject name key (some offset) (some length) o).1 =
      .ok read → (offset < object.data.size ∨ offset = 0 ∧ length = 0) ∧ Writable offset length := by
    intro read hread
    by_cases hn : (offset < object.data.size ∨ offset = 0 ∧ length = 0) ∧ Writable offset length
    · exact hn
    · obtain ⟨e, he⟩ := getObject_of_not_serves settings partSize hb hk hs hn
      cases hread.symm.trans he
  refine ⟨⟨_, Memory.getObject_of_get? settings partSize hb hk hf hm offset length, rfl⟩,
    ⟨_, Memory.statObject_of_get? settings partSize hb hk hf hm, rfl⟩,
    statObject_of_serves settings partSize hb hk hs', ⟨fun ⟨_, hread⟩ => hproper hread, ?_⟩, ?_⟩
  · rintro ⟨hr, hw⟩
    obtain ⟨info, hinfo, -⟩ := getObject_of_serves settings partSize hb hk hs offset length hr hw
    exact ⟨_, hinfo⟩
  · intro read hread
    obtain ⟨hr, hw⟩ := hproper hread
    obtain ⟨info, hinfo, hsize⟩ := getObject_of_serves settings partSize hb hk hs offset length hr hw
    cases hread.symm.trans hinfo
    refine ⟨rfl, hsize, ?_⟩
    rw [hsize, Int.ofNat_inj]
    exact size_extract_iff hr

/-! ## A service that holds one object -/

/-- The response of HTTP to a read. -/
def Response.ofRead (range : Option String) (data bytes : ByteArray) : Response where
  fields := ("ContentLength", .int bytes.size) ::
    ((range.bind readRange?).map fun named =>
      ("ContentRange", .text (contentRange named.1 bytes.size data.size))).toList
  body := some bytes

theorem Response.delivers_ofRead (range : Option String) (data bytes : ByteArray) :
    (Response.ofRead range data bytes).Delivers range data bytes where
  body := rfl
  length := rfl
  range := by
    intro text ht named hn
    have hnamed : range.bind readRange? = some named := by
      rw [ht, Option.bind_some]
      exact hn
    rw [Response.ofRead, hnamed]
    rfl

/-- A service that holds the same object under all names. -/
def holding (data : ByteArray) : Service Unit where
  respond call s :=
    match call with
    | .getObject _ _ range => match selected (range.map ByteRange.text) data with
      | some bytes => (.ok (.ofRead (range.map ByteRange.text) data bytes), s)
      | none => (.error (.raised .general (some "InvalidRange")), s)
    | .headObject .. => (.ok { fields := [("ContentLength", .int data.size)] }, s)
    | _ => (.ok {}, s)

theorem serves_holding (data : ByteArray) (bucket key : String) : (holding data).Serves () bucket key data where
  head := ⟨_, rfl, rfl⟩
  get := by
    intro range bytes hbytes
    refine ⟨_, ?_, Response.delivers_ofRead _ data bytes⟩
    simp only [holding, hbytes]
  refuse := by
    intro range hnone
    refine ⟨.raised .general (some "InvalidRange"), ?_, rfl⟩
    simp only [holding, hnone]

/-- The middle byte of three comes with the size 1, while the object is told to have the size 3, and the store in memory
tells that with the byte, too. -/
theorem size_getObject_iff_of_middle_byte :
    let c := client {} (holding ⟨#[1, 2, 3]⟩) none
    let o : Observed Unit := ⟨(), [], {}⟩
    let m : Observed Memory.Store := ⟨({} : Memory.Store).addObject "b" "k" ⟨#[1, 2, 3]⟩, [], {}⟩
    (∃ read, (c.getObject " b " "k" (some 1) (some 1) o).1 = .ok read ∧ read.1 = .bytes ⟨#[2]⟩ ∧ read.2.size = 1) ∧
      (∃ info, (c.statObject " b " "k" o).1 = .ok info ∧ info.size = 3) ∧
      ∃ info, ((Memory.client {} none).getObject " b " "k" (some 1) (some 1) m).1 = .ok (.bytes ⟨#[2]⟩, info) ∧
        info.size = 3 := by
  have hs := serves_holding ⟨#[1, 2, 3]⟩ "b" "k"
  have hb : Argument.bucket " b " = .ok "b" := rfl
  obtain ⟨hmemory, -, hstat, hreturns, hread⟩ := size_getObject_iff {} none ⟨(), [], {}⟩ ⟨(), [], {}⟩
    ⟨({} : Memory.Store).addObject "b" "k" ⟨#[1, 2, 3]⟩, [], {}⟩ hb rfl hs hs rfl (get?_addObject {} "b" "k" _) 1 1
  obtain ⟨read, hok⟩ := hreturns.2 ⟨.inl (by decide), writable_iff.2 (lt_digitLimit (by decide))⟩
  exact ⟨⟨read, hok, (hread read hok).1, (hread read hok).2.1⟩, hstat, hmemory⟩

/-- So over a service that answers as HTTP prescribes, the size that comes with a read of one byte of three is not the
size of the object. -/
theorem size_getObject_ne_of_middle_byte :
    let c := client {} (holding ⟨#[1, 2, 3]⟩) none
    let o : Observed Unit := ⟨(), [], {}⟩
    (holding ⟨#[1, 2, 3]⟩).Serves o.transport "b" "k" ⟨#[1, 2, 3]⟩ ∧
      ∃ bytes info whole, (c.getObject "b" "k" (some 1) (some 1) o).1 = .ok (bytes, info) ∧
        (c.statObject "b" "k" o).1 = .ok whole ∧ whole.size = 3 ∧ info.size ≠ whole.size := by
  have hs := serves_holding ⟨#[1, 2, 3]⟩ "b" "k"
  have hb : Argument.bucket "b" = .ok "b" := rfl
  obtain ⟨info, hget, hsize⟩ := getObject_of_serves {} none (o := ⟨(), [], {}⟩) hb rfl hs 1 1 (.inl (by decide))
    (writable_iff.2 (lt_digitLimit (by decide)))
  obtain ⟨whole, hstat, hwhole⟩ := statObject_of_serves {} none (o := ⟨(), [], {}⟩) hb rfl hs
  refine ⟨hs, _, info, whole, hget, hstat, hwhole, ?_⟩
  rw [hsize, hwhole]
  decide

end BucketClient.S3
