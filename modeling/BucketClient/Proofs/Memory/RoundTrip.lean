import BucketClient.Proofs.Client.Command
import BucketClient.Proofs.Memory.Frame
import BucketClient.Proofs.Upload.Unfailing

/-!
# What is written can be read back

An upload to the store in memory that returns has stored the bytes of the parts that it took (`gains_of_ok`), whatever
failures are injected, and has changed nothing else but sessions. Without injected failures, the upload of a source that
does not fail returns (`exists_tag_of_creates`). So an object that is created from a source has the bytes that the
source delivers, however its reads fall and whatever the part size is (`getObject_createObject`); also when the source
gives more than it is asked for (`gains_of_creates`).

The invariant of the upload of the parts is that the session holds the parts taken so far, each under its number and
with the tag that was answered (`StoredUpload.Holds`, `holds_of_runs`). Its completion puts the parts together in the
order of their numbers (`assemble_listed`), which gives the bytes of the pieces (`joined_of_allTaken`).
-/

namespace BucketClient

/-! ## Stretches -/

theorem clampPosition_ofNat (size position : Nat) : clampPosition size position = min position size := by
  unfold clampPosition
  rw [if_neg (by omega), Int.toNat_natCast]

/-- Positions from the start need no clamping. -/
theorem slice_ofNat (data : ByteArray) (first last : Nat) : slice data first last = data.extract first last := by
  rw [slice, clampPosition_ofNat, clampPosition_ofNat]
  apply ByteArray.ext
  rw [ByteArray.data_extract, ByteArray.data_extract]
  calc data.data.extract (min first data.size) (min last data.size)
      = data.data.extract (min first data.size) last := by
        rw [Array.extract_eq_extract_right, show data.data.size = data.size from rfl]
        omega
    _ = data.data.extract first last := by
        rw [Array.extract_eq_extract_left, show data.data.size = data.size from rfl]
        omega

/-! ## Parts that are put together -/

theorem joined_append_empty (strings : List ByteArray) : joined (strings ++ [ByteArray.empty]) = joined strings := by
  induction strings with
  | nil => exact ByteArray.append_empty
  | cons bytes rest ih => rw [List.cons_append, joined, ih, joined]

namespace Upload

theorem Part.map_payload_pieces (n : Nat) (taken : List Part) :
    (pieces n taken).map Piece.payload = taken.map Part.data := by
  induction taken generalizing n with
  | nil => rfl
  | cons part rest ih => rw [pieces, List.map_cons, ih]; rfl

/-- Put together, the parts that were taken have the bytes of all pieces. -/
theorem joined_of_allTaken {n : Nat} {pulls : List Pull} {taken : List Part} (h : AllTaken n pulls taken) :
    joined (taken.map Part.data) = joined ((pulls.map Pull.piece).map Piece.payload) := by
  rcases h with h | h
  · rw [h, Part.map_payload_pieces]
  · rw [h, List.map_append, Part.map_payload_pieces,
      show [Piece.finished].map Piece.payload = [ByteArray.empty] from rfl, joined_append_empty]

end Upload

namespace Memory

open Upload

/-! ## Sessions that hold parts -/

/-- The session holds the taken parts under the numbers from `n` on, each with the tag that was answered. -/
def StoredUpload.Holds (upload : StoredUpload) : Nat → List Part → Prop
  | _, [] => True
  | n, part :: rest =>
    upload.parts.get? n = some ⟨part.answer.tag, part.data⟩ ∧ upload.Holds (n + 1) rest

namespace Store

theorem assemble_listed {upload : StoredUpload} {n : Nat} {taken : List Part} (h : upload.Holds n taken) :
    assemble upload (Part.listed n taken) = .ok (joined (taken.map Part.data)) := by
  induction taken generalizing n with
  | nil => rfl
  | cons part rest ih =>
    obtain ⟨hp, hrest⟩ := h
    rw [Part.listed, assemble, hp]
    simp only [if_true]
    rw [ih hrest]
    rfl

theorem inOrder_listed (n : Nat) (taken : List Part) : inOrder (Part.listed n taken) = true := by
  induction taken generalizing n with
  | nil => rfl
  | cons part rest ih =>
    cases rest with
    | nil => rfl
    | cons next rest =>
      rw [Part.listed, Part.listed, inOrder, Bool.and_eq_true, decide_eq_true_eq]
      exact ⟨Int.ofNat_le.2 (Nat.le_succ n), ih (n + 1)⟩

/-! ## Stores without injected failures -/

theorem faults_perform (request : Request) (s : Store) : (s.perform request).2.faults = s.faults := by
  cases hf : s.faults.methods.get? request.method.name with
  | some error => rw [perform_of_fault hf]
  | none =>
    rw [perform_of_not_fault hf]
    cases request <;>
      grind [serve, initUpload, Store.uploadPart, completeUpload, abortUpload, putObject, putBucket, putBucketAcl,
        deleteBucket]

theorem now_perform (request : Request) (s : Store) : (s.perform request).2.now = s.now := by
  cases hf : s.faults.methods.get? request.method.name with
  | some error => rw [perform_of_fault hf]
  | none =>
    rw [perform_of_not_fault hf]
    cases request <;>
      grind [serve, initUpload, Store.uploadPart, completeUpload, abortUpload, putObject, putBucket, putBucketAcl,
        deleteBucket]

theorem perform_of_faultless {s : Store} (h : s.faults = {}) (request : Request) :
    s.perform request = { s with calls := s.calls ++ [request] }.serve request :=
  perform_of_not_fault (by rw [h]; rfl)

/-- The upload of a part to a session that is there. -/
theorem perform_uploadPart {s : Store} (h : s.faults = {}) {uploadId : String} {upload : StoredUpload}
    (hu : s.uploads.get? uploadId = some upload) (bucket key : String) (number : Int) (data : ByteArray) :
    s.perform (.uploadPart bucket key uploadId number (some data.size) data) =
      (.ok ⟨number, payloadTag data⟩, { s with
        calls := s.calls ++ [.uploadPart bucket key uploadId number (some data.size) data]
        uploads := s.uploads.insert uploadId { upload with
          parts := upload.parts.insert number ⟨payloadTag data, data⟩ } }) := by
  have hf : s.faults.parts.get? number = none := by rw [h]; rfl
  rw [perform_of_faultless h, serve, Store.uploadPart]
  simp only [hf, hu, if_true]

/-- The upload of a part that succeeded, to a session that is there. -/
theorem perform_uploadPart_of_ok {s : Store} {uploadId : String} {upload : StoredUpload} {answer : CompletedPart}
    (hu : s.uploads.get? uploadId = some upload) {bucket key : String} {number : Int} {data : ByteArray}
    (h : (s.perform (.uploadPart bucket key uploadId number (some data.size) data)).1 = .ok answer) :
    (s.perform (.uploadPart bucket key uploadId number (some data.size) data)).2.uploads =
      s.uploads.insert uploadId { upload with parts := upload.parts.insert number ⟨answer.tag, data⟩ } := by
  have hperform := perform_of_ok h
  rw [hperform] at h ⊢
  simp only [serve, Store.uploadPart, hu, if_true] at h ⊢
  cases hf : s.faults.parts.get? number with
  | some error =>
    rw [hf] at h
    cases h
  | none =>
    rw [hf] at h
    cases h
    rfl

/-- A session that holds the taken parts is completed with what they are put together. -/
theorem perform_completeUpload {s : Store} (h : s.faults = {}) {uploadId : String} {upload : StoredUpload} {n : Nat}
    {taken : List Part} (hu : s.uploads.get? uploadId = some upload) (hp : upload.Holds n taken) (bucket key : String) :
    ∃ tag, s.perform (.completeUpload bucket key uploadId (Part.listed n taken)) = (.ok tag, { s with
      calls := s.calls ++ [.completeUpload bucket key uploadId (Part.listed n taken)]
      uploads := s.uploads.insert uploadId { upload with completed := true }
      objects := s.objects.insert (objectPath bucket key)
        ⟨bucket, key, joined (taken.map Part.data), tag, upload.contentType⟩ }) := by
  rw [perform_of_faultless h, serve, completeUpload]
  simp only [hu, inOrder_listed, assemble_listed hp, if_true]
  exact ⟨_, rfl⟩

theorem stretch_ofNat (size offset length : Nat) : stretch size (some (offset : Int)) (some (length : Int)) =
    .ok ((offset : Int), ((if length = 0 then size else offset + length : Nat) : Int)) := by
  unfold stretch
  by_cases h : length = 0
  · simp [h]
  · simp [h]

/-- The bytes of an object from an offset on, up to a length unless it is zero. -/
theorem perform_getObject {s : Store} {bucket key : String} {object : StoredObject}
    (hf : s.faults.methods.get? Method.getObject.name = none)
    (ho : s.objects.get? (objectPath bucket key) = some object) (offset length : Nat) :
    (s.perform (.getObject bucket key (some offset) (some length))).1 =
      .ok (object.data.extract offset (if length = 0 then object.data.size else offset + length), object.info key) := by
  rw [perform_of_not_fault hf]
  simp only [serve, Store.getObject, ho, stretch_ofNat, Except.map, slice_ofNat]

end Store

theorem faults_of_runs {xs : List Exchange} {s s' : Store} (h : transport.Runs s xs s') : s'.faults = s.faults := by
  induction xs generalizing s with
  | nil => rw [show s' = s from h]
  | cons x xs ih => exact (ih h.2).trans (Store.faults_perform x.request s)

theorem now_of_runs {xs : List Exchange} {s s' : Store} (h : transport.Runs s xs s') : s'.now = s.now := by
  induction xs generalizing s with
  | nil => rw [show s' = s from h]
  | cons x xs ih => exact (ih h.2).trans (Store.now_perform x.request s)

/-- A run in which parts are uploaded to a session: it holds them afterwards, and what it held below their numbers. -/
theorem holds_of_runs {bucket key uploadId : String} {n : Nat} {taken : List Part} {s s' : Store}
    {upload : StoredUpload} (h : transport.Runs s (Part.uploads bucket key uploadId n taken) s')
    (hu : s.uploads.get? uploadId = some upload) :
    ∃ upload', s'.uploads.get? uploadId = some upload' ∧ upload'.contentType = upload.contentType ∧
      upload'.Holds n taken ∧ ∀ number : Int, number < n → upload'.parts.get? number = upload.parts.get? number := by
  induction taken generalizing n s upload with
  | nil =>
    obtain rfl : s' = s := h
    exact ⟨upload, hu, rfl, trivial, fun _ _ => rfl⟩
  | cons part rest ih =>
    obtain ⟨hanswer, hrest⟩ := h
    have huploads := Store.perform_uploadPart_of_ok hu hanswer
    obtain ⟨upload', hu', hc, hholds, hbelow⟩ := ih hrest (huploads ▸ Dictionary.get?_insert_self ..)
    refine ⟨upload', hu', hc, ⟨?_, hholds⟩, fun number hn => ?_⟩
    · -- the parts that follow have higher numbers
      rw [hbelow n (by omega)]
      exact Dictionary.get?_insert_self ..
    · rw [hbelow number (by omega)]
      exact Dictionary.get?_insert_of_ne _ _ (by omega)

/-- A run in which a session is opened and parts are uploaded to it. -/
theorem holds_of_runs_initUpload {bucket key : String} {contentType : Option String} {session : UploadSession}
    {taken : List Part} {xs : List Exchange} {s s' : Store}
    (h : transport.Runs s (⟨.initUpload bucket key contentType, .ok session⟩ ::
      (Part.uploads bucket key session.uploadId 1 taken ++ xs)) s') :
    ∃ m upload, transport.Runs m xs s' ∧ s.Keeps m ∧ m.faults = s.faults ∧
      m.uploads.get? session.uploadId = some upload ∧ upload.contentType = contentType ∧ upload.Holds 1 taken := by
  obtain ⟨hanswer, h⟩ := h
  have hperform : transport.perform (.initUpload bucket key contentType) s = _ := Store.perform_of_ok hanswer
  have hopens : s.Keeps (transport.perform (.initUpload bucket key contentType) s).2 := Store.keeps_perform rfl hanswer
  have hfaults := Store.faults_perform (.initUpload bucket key contentType) s
  rw [hperform] at hanswer h hopens
  cases hanswer
  obtain ⟨m, hm, hxs⟩ := Transport.runs_append.1 h
  have huploads := keeps_of_runs hm fun x hx => Part.preliminary_of_mem_uploads hx
  obtain ⟨upload, hu, hc, hholds, -⟩ := holds_of_runs hm (Dictionary.get?_insert_self ..)
  exact ⟨m, upload, hxs, hopens.trans huploads, (faults_of_runs hm).trans rfl, hu, hc, hholds⟩

/-! ## Uploads that return -/

/-- An object has been stored, and no other object and no bucket has changed. -/
structure Store.Gains (s : Store) (object : StoredObject) (s' : Store) : Prop where
  objects : s'.objects = s.objects.insert (objectPath object.bucket object.key) object
  buckets : s'.buckets = s.buckets

/-- The bytes of a source that are uploaded: below the part size those of its first part, and from there on all. -/
def uploaded (partSize size : Int) (source : Source) : ByteArray :=
  if size < partSize then (source.firstPull partSize.toNat).piece.payload
  else joined (((source.pulls partSize.toNat).map Pull.piece).map Piece.payload)

section

variable {bucket key : String} {contentType : Option String} {source : Source} {s s' : Store}

/-- An upload in parts that returns has stored all of its parts. -/
theorem gains_of_course {partSize : Int} {ending : Ending} {a : Account} {tag : String}
    (hc : Course bucket key contentType partSize source ending a) (hr : a.result = .ok tag)
    (hrun : transport.Runs s a.exchanges s') :
    s.Gains ⟨bucket, key, joined (((source.pulls partSize.toNat).map Pull.piece).map Piece.payload), tag,
      contentType⟩ s' := by
  cases hc with
  | notOpened => cases hr
  | unsplit => cases hr
  | broken => cases hr
  | closed _ _ hall hc =>
    obtain ⟨m, upload, hxs, hkeeps, -, hu, htype, hholds⟩ := holds_of_runs_initUpload hrun
    cases hc with
    | completed =>
      cases hr
      obtain ⟨hanswer, hs⟩ := hxs
      have hs : s' = (m.perform _).2 := hs
      have hperform := Store.perform_of_ok hanswer
      rw [hperform] at hs
      have hanswer : (m.perform _).1 = _ := hanswer
      rw [hperform] at hanswer
      obtain ⟨upload', data, ⟨hu', -, hdata⟩, htag, hcomplete⟩ := Store.completeUpload_of_ok hanswer
      cases hu'.symm.trans hu
      cases hdata.symm.trans (Store.assemble_listed hholds)
      rw [show s' = _ from hs.trans hcomplete, ← joined_of_allTaken hall, ← htype]
      refine ⟨?_, ?_⟩
      · rw [← hkeeps.objects]
      · rw [← hkeeps.buckets]
    | notCompleted => cases hr
    | interrupted => cases hr

/-- An upload in one request that returns has stored the first part. -/
theorem gains_of_single {pull : Pull} {a : Account} {tag : String} (hs : Single bucket key contentType pull a)
    (hr : a.result = .ok tag) (hrun : transport.Runs s a.exchanges s') :
    s.Gains ⟨bucket, key, pull.piece.payload, tag, contentType⟩ s' := by
  cases hs with
  | unread => cases hr
  | @put data outcome hc =>
    obtain rfl : outcome = .ok tag := hr
    have hpayload : pull.piece.payload = data := by
      cases hp : pull.piece <;> rw [hp] at hc <;> cases hc <;> rfl
    obtain ⟨hanswer, hs⟩ := hrun
    have hs : s' = (s.perform _).2 := hs
    have hperform := Store.perform_of_ok hanswer
    have hanswer : (s.perform _).1 = _ := hanswer
    rw [hperform] at hanswer hs
    cases hanswer
    rw [hs, hpayload]
    exact ⟨rfl, rfl⟩

/-- A creation that returns has stored the bytes that are uploaded. -/
theorem gains_of_ok {name : String} {partSize size : Int} {a : Account} {tag : String}
    (hc : Creates (some partSize) name key (some size) source contentType a) (hr : a.result = .ok tag)
    (hrun : transport.Runs s a.exchanges s') :
    ∃ bucket, Argument.bucket name = .ok bucket ∧
      s.Gains ⟨bucket, key, uploaded partSize size source, tag, contentType⟩ s' := by
  have hsize : ∀ {n}, Argument.size (some size) = .ok n → n = size := by
    intro n hn
    rw [Argument.size, Argument.natural] at hn
    split at hn
    · cases hn
    · exact (Except.ok.inj hn).symm
  cases hc with
  | refused => cases hr
  | single ha hp hn hs =>
    cases hp
    rw [hsize ha.size_ok] at hn
    refine ⟨_, ha.bucket_ok, ?_⟩
    rw [uploaded, if_pos hn]
    exact gains_of_single hs hr hrun
  | parts ha hp hn hcourse =>
    cases hp
    rw [hsize ha.size_ok] at hn
    refine ⟨_, ha.bucket_ok, ?_⟩
    rw [uploaded, if_neg (Int.not_lt.2 hn)]
    exact gains_of_course hcourse hr hrun

/-! ## Uploads of unfailing sources -/

/-- A session does not break off in its parts. -/
theorem not_breaks {session : UploadSession} {taken : List Part} {size : Nat} {ending : Ending} {reads : List Nat}
    {xs : List Exchange} {e : Failure} (h0 : 0 < size) (hs : source.Unfailing)
    (hb : Breaks bucket key session 1 (source.pulls size) taken ending reads xs e) (hf : s.faults = {})
    {upload : StoredUpload} (hu : s.uploads.get? session.uploadId = some upload) : ¬transport.Runs s xs s' := by
  intro hrun
  -- the service takes every part
  have hrefused : ∀ {number : Int} {data : ByteArray} {rest : List Exchange} {e : Failure},
      ¬transport.Runs s (⟨.uploadPart bucket key session.uploadId number (some data.size) data, .error e⟩ :: rest)
        s' := by
    intro number data rest e h
    have hanswer : (s.perform _).1 = _ := h.1
    rw [Store.perform_uploadPart hf hu bucket key number data] at hanswer
    cases hanswer
  obtain ⟨number, data, f, -, -, ⟨-, outcome, rfl, -⟩ | ⟨-, -, rfl⟩⟩ := hb.uploaded h0 hs
  · exact hrefused hrun
  · exact hrefused hrun

/-- An upload in parts returns. -/
theorem exists_tag_of_course {partSize : Int} {ending : Ending} {a : Account} (h0 : 0 < partSize)
    (hs : source.Unfailing) (hc : Course bucket key contentType partSize source ending a) (hf : s.faults = {})
    (hrun : transport.Runs s a.exchanges s') : ∃ tag, a.result = .ok tag := by
  have hsize : 0 < partSize.toNat := by omega
  cases hc with
  | notOpened =>
    have hanswer : (s.perform _).1 = _ := hrun.1
    rw [Store.perform_of_faultless hf] at hanswer
    cases hanswer
  | unsplit h => omega
  | broken _ hb =>
    obtain ⟨m, upload, hxs, -, hf', hu, -, -⟩ := holds_of_runs_initUpload hrun
    exact absurd hxs (not_breaks hsize hs hb (hf'.trans hf) hu)
  | closed _ _ hall hc =>
    obtain ⟨m, upload, hxs, -, hf', hu, -, hholds⟩ := holds_of_runs_initUpload hrun
    obtain ⟨tag, hperform⟩ := Store.perform_completeUpload (hf'.trans hf) hu hholds bucket key
    cases hc with
    | completed => exact ⟨_, rfl⟩
    | notCompleted =>
      have hanswer : (m.perform _).1 = _ := hxs.1
      rw [hperform] at hanswer
      cases hanswer
    | interrupted =>
      have hanswer : (m.perform _).1 = _ := hxs.1
      rw [hperform] at hanswer
      cases hanswer

/-- An upload in one request returns. -/
theorem exists_tag_of_single {size : Nat} {a : Account} (h0 : 0 < size) (hs : source.Unfailing)
    (hsingle : Single bucket key contentType (source.firstPull size) a) (hf : s.faults = {})
    (hrun : transport.Runs s a.exchanges s') : ∃ tag, a.result = .ok tag := by
  cases hsingle with
  | unread hc =>
    rcases hs.part_or_finished h0 (List.mem_map_of_mem (List.head_mem (source.pulls_ne_nil size))) with h | ⟨_, _, h⟩
    · rw [Source.firstPull, h] at hc
      cases hc
    · rw [Source.firstPull, h] at hc
      cases hc
  | put =>
    have hanswer : (s.perform _).1 = _ := hrun.1
    rw [Store.perform_of_faultless hf] at hanswer
    exact ⟨_, hanswer.symm⟩

/-- A creation returns. -/
theorem exists_tag_of_creates {name : String} {partSize size : Int} {a : Account}
    (ha : Accepted name key (some size) bucket size) (h0 : 0 < partSize) (hs : source.Unfailing) (hf : s.faults = {})
    (hc : Creates (some partSize) name key (some size) source contentType a)
    (hrun : transport.Runs s a.exchanges s') : ∃ tag, a.result = .ok tag := by
  cases hc with
  | refused h =>
    rcases h with h | h
    · exact absurd ha (h bucket size)
    · cases h
  | single _ hp _ hsingle =>
    cases hp
    exact exists_tag_of_single (by omega) hs hsingle hf hrun
  | parts _ hp _ hcourse =>
    cases hp
    exact exists_tag_of_course h0 hs hcourse hf hrun

end

/-! ## The upload of yielded bytes -/

section Yielded

variable {bucket key : String} {contentType : Option String} {source : Source} {bytes : ByteArray} {s s' : Store}

/-- What is asked for first is the only part, if the part size is above the length of the bytes. -/
theorem firstPull_of_lt {size : Nat} (hy : source.Yields bytes) (hlt : bytes.size < size) :
    (source.firstPull size).piece = .part 1 bytes := by
  have hcuts : Split.Cuts size 1 bytes ((source.pulls size).map Pull.piece) :=
    Source.cuts_pulls (Nat.zero_lt_of_lt hlt) hy
  have hmem : (source.firstPull size).piece ∈ (source.pulls size).map Pull.piece :=
    List.mem_map_of_mem (List.head_mem _)
  generalize (source.pulls size).map Pull.piece = pieces at hcuts hmem
  cases hcuts with
  | part hs =>
    rw [ByteArray.size_append] at hlt
    omega
  | last =>
    rw [List.mem_singleton.1 hmem]
    simp [Split.lastPiece]

/-- All bytes are uploaded if their number is declared. -/
theorem uploaded_of_yields {partSize : Int} (h0 : 0 < partSize) (hy : source.Yields bytes) :
    uploaded partSize bytes.size source = bytes := by
  unfold uploaded
  by_cases h : (bytes.size : Int) < partSize
  · rw [if_pos h, firstPull_of_lt hy (by omega)]
    rfl
  · rw [if_neg h]
    exact (Source.cuts_pulls (by omega) hy).joined_eq

/-- A creation stores the bytes. -/
theorem gains_of_creates {name : String} {partSize : Int} {a : Account} (hb : Argument.bucket name = .ok bucket)
    (hk : Argument.key key = .ok key) (h0 : 0 < partSize) (hy : source.Yields bytes) (hf : s.faults = {})
    (hc : Creates (some partSize) name key (some bytes.size) source contentType a)
    (hrun : transport.Runs s a.exchanges s') :
    ∃ tag, a.result = .ok tag ∧ s.Gains ⟨bucket, key, bytes, tag, contentType⟩ s' := by
  obtain ⟨tag, hr⟩ := exists_tag_of_creates ⟨hb, hk, rfl⟩ h0 hy.unfailing hf hc hrun
  obtain ⟨bucket', hb', hgains⟩ := gains_of_ok hc hr hrun
  cases hb.symm.trans hb'
  rw [uploaded_of_yields h0 hy] at hgains
  exact ⟨tag, hr, hgains⟩

/-- The object of a creation is found in the store. -/
theorem stored_of_creates {name : String} {partSize : Int} {a : Account} (hb : Argument.bucket name = .ok bucket)
    (hk : Argument.key key = .ok key) (h0 : 0 < partSize) (hd : source.Delivers bytes) (hf : s.faults = {})
    (hc : Creates (some partSize) name key (some bytes.size) source contentType a)
    (hrun : transport.Runs s a.exchanges s') :
    ∃ tag, a.result = .ok tag ∧
      s'.objects.get? (objectPath bucket key) = some ⟨bucket, key, bytes, tag, contentType⟩ := by
  obtain ⟨tag, hr, hgains⟩ := gains_of_creates hb hk h0 hd.yields hf hc hrun
  refine ⟨tag, hr, ?_⟩
  rw [hgains.objects]
  exact Dictionary.get?_insert_self ..

end Yielded

/-! ## Reading an object -/

section Reading

variable (settings : Settings) (partSize : Option Int) {name bucket key : String} {object : StoredObject}
  {o : Observed Store} (hb : Argument.bucket name = .ok bucket) (hk : Argument.key key = .ok key)
  (hf : o.transport.faults = {}) (ho : o.transport.objects.get? (objectPath bucket key) = some object)

include hb hk hf ho

theorem getObject_of_get? (offset length : Nat) :
    ((client settings partSize).getObject name key (some offset) (some length) o).1 =
      .ok (object.data.extract offset (if length = 0 then object.data.size else offset + length), object.info key) := by
  rw [Client.getObject_of_ok _ hb hk (Int.natCast_nonneg offset) (Int.natCast_nonneg length)]
  exact Store.perform_getObject (by rw [hf]; rfl) ho offset length

theorem statObject_of_get? : ((client settings partSize).statObject name key o).1 = .ok (object.info key) := by
  rw [Client.statObject_of_ok _ hb hk]
  show (o.transport.perform (.headObject bucket key)).1 = _
  rw [Store.perform_of_faultless hf]
  simp only [Store.serve, Store.info, ho]

end Reading

/-- **What is written can be read back**: the whole of it, any stretch of it, and what is known of it. -/
theorem getObject_createObject (settings : Settings) {name bucket key : String} {partSize : Int}
    (contentType : Option String) {source : Source} {bytes : ByteArray} {o : Observed Store}
    (hb : Argument.bucket name = .ok bucket) (hk : Argument.key key = .ok key) (h0 : 0 < partSize)
    (hd : source.Delivers bytes) (hf : o.transport.faults = {}) :
    let c := client settings (some partSize)
    let report := c.createObject name key (some bytes.size) source contentType o
    ∃ tag, report.result = .ok tag ∧
      let info : ObjectInfo :=
        { key, size := bytes.size, tag := .text tag, contentType := contentType.elim .null .text }
      (c.getObject name key (some 0) (some 0) report.after).1 = .ok (bytes, info) ∧
      (∀ offset length : Nat, (c.getObject name key (some offset) (some length) report.after).1 =
        .ok (bytes.extract offset (if length = 0 then bytes.size else offset + length), info)) ∧
      (c.statObject name key report.after).1 = .ok info := by
  dsimp only
  have hcreates :=
    (client settings (some partSize)).createObject_creates name key (some bytes.size) source contentType o
  have hr := (client settings (some partSize)).result_account name key (some bytes.size) source contentType o
  generalize (client settings (some partSize)).createObject name key (some bytes.size) source contentType o = report
    at hcreates hr ⊢
  generalize (client settings (some partSize)).account name key (some bytes.size) source contentType o = account
    at hcreates hr ⊢
  obtain ⟨tag, htag, ho⟩ := stored_of_creates hb hk h0 hd hf hcreates.2 hcreates.1
  have hf' : report.after.transport.faults = {} := (faults_of_runs hcreates.1).trans hf
  have hget := getObject_of_get? settings (some partSize) hb hk hf' ho
  refine ⟨tag, hr.symm.trans htag, ?_, hget, statObject_of_get? settings (some partSize) hb hk hf' ho⟩
  have h := hget 0 0
  rw [if_pos rfl, ByteArray.extract_zero_size] at h
  exact h

/-- Three bytes, read one by one, are stored in two parts; the byte between the others is read back. -/
theorem getObject_createObject_of_three_reads :
    let c := client {} (some 2)
    let report := c.createObject " b " "k" (some 3) (.ofBytes ⟨#[1, 2, 3]⟩ { step := some 1 }) (some "text/plain")
      ⟨{}, [], {}⟩
    ∃ tag, report.result = .ok tag ∧
      (c.getObject " b " "k" (some 1) (some 1) report.after).1 =
        .ok (.bytes ⟨#[2]⟩, { key := "k", size := 3, tag := .text tag, contentType := .text "text/plain" }) := by
  have hb : Argument.bucket " b " = .ok "b" := rfl
  have hk : Argument.key "k" = .ok "k" := rfl
  have hd : (Source.ofBytes ⟨#[1, 2, 3]⟩ { step := some 1 }).Delivers ⟨#[1, 2, 3]⟩ :=
    Source.delivers_ofBytes (by decide) rfl _
  have hf : (⟨{}, [], {}⟩ : Observed Store).transport.faults = {} := rfl
  obtain ⟨tag, hr, -, hread, -⟩ :=
    getObject_createObject {} (some "text/plain") hb hk (show (0 : Int) < 2 by decide) hd hf
  exact ⟨tag, hr, hread 1 1⟩

end Memory

end BucketClient
