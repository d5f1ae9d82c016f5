import BucketClient.Memory.Store
import BucketClient.Proofs.Upload.Unfailing
import BucketClient.S3.Scripted
import BucketClient.S3.Transport

/-!
# How high part numbers go

A service takes parts with the numbers from 1 to `partLimit`. The part size of an upload is fixed and its size is not
bounded, so the numbers stay in this range only up to a size.

* `Course.exists_part_of_mem`: the part numbers of an upload are numbers of parts of its source.
* `partNumbers_le_limit_iff`: the numbers are bounded by the size over the part size, and those of an upload in parts
  that succeeds stay within the limit iff the size is at most `partLimit` times the part size.
-/

namespace BucketClient

variable {σ : Type}

/-- The highest number of a part that a service takes. -/
def partLimit : Nat := 10000

/-- The numbers of the parts that a request uploads, or that it lists to complete a session. -/
def Request.partNumbers : Request → List Int
  | .uploadPart _ _ _ number _ _ => [number]
  | .completeUpload _ _ _ parts => parts.map (·.number)
  | _ => []

namespace Upload

/-- The part numbers in the requests of an upload. -/
def Account.partNumbers (a : Account) : List Int :=
  a.exchanges.flatMap (·.request.partNumbers)

/-! ## The numbers of a course -/

theorem Part.partNumbers_uploads (bucket key uploadId : String) (n : Nat) (taken : List Part) :
    (Part.uploads bucket key uploadId n taken).flatMap (·.request.partNumbers) =
      (Part.listed n taken).map (·.number) := by
  induction taken generalizing n with
  | nil => rfl
  | cons part rest ih =>
    rw [Part.uploads, Part.listed, List.flatMap_cons, List.map_cons, ih]
    rfl

theorem Part.mem_listed_numbers {n : Nat} {taken : List Part} {number : Int} :
    number ∈ (Part.listed n taken).map (·.number) ↔
      ∃ (i : Nat) (data : ByteArray), number = i ∧ .part i data ∈ Part.pieces n taken := by
  induction taken generalizing n with
  | nil => simp [Part.listed, Part.pieces]
  | cons part rest ih =>
    rw [Part.listed, List.map_cons, List.mem_cons, ih]
    constructor
    · rintro (rfl | ⟨i, data, rfl, hm⟩)
      · exact ⟨n, part.data, rfl, List.mem_cons_self⟩
      · exact ⟨i, data, rfl, List.mem_cons_of_mem _ hm⟩
    · rintro ⟨i, data, rfl, hm⟩
      rcases List.mem_cons.1 hm with heq | hm
      · cases heq
        exact .inl rfl
      · exact .inr ⟨i, data, rfl, hm⟩

section

variable {bucket key : String} {contentType : Option String} {partSize : Int} {source : Source} {ending : Ending}
  {session : UploadSession} {a : Account} {number : Int}

@[simp] theorem partNumbers_abortion (outcome : Except Failure Unit) :
    (abortion session outcome).request.partNumbers = [] := rfl

/-- A session breaks off behind pieces of its source: the stored parts and one more, whose number is the only one that
may still appear in a request. -/
theorem Breaks.exists_last {n : Nat} {pulls : List Pull} {taken : List Part} {reads : List Nat} {xs : List Exchange}
    {e : Failure} (h : Breaks bucket key session n pulls taken ending reads xs e) :
    ∃ last, Part.pieces n taken ++ [last] <+: pulls.map Pull.piece ∧
      ∀ number : Int, number ∈ xs.flatMap (·.request.partNumbers) → ∃ (i : Nat) (data : ByteArray),
        number = i ∧ last = .part i data := by
  cases h with
  | @refused asked i data _ _ hp hpieces =>
    refine ⟨.part i data, hpieces ▸ hp.map Pull.piece, fun number hm => ⟨i, data, ?_, rfl⟩⟩
    simpa [Request.partNumbers, abortion] using hm
  | @unreadable asked _ _ _ hp hpieces =>
    exact ⟨_, hpieces ▸ hp.map Pull.piece, fun number hm => by simp at hm⟩
  | @refusedByInterrupt asked i data _ hp hpieces =>
    refine ⟨.part i data, hpieces ▸ hp.map Pull.piece, fun number hm => ⟨i, data, ?_, rfl⟩⟩
    simpa [Request.partNumbers] using hm
  | unreadByInterrupt hp hpieces =>
    exact ⟨_, hpieces ▸ hp.map Pull.piece, fun number hm => by simp at hm⟩

theorem Closes.mem_listed_of_mem {parts : List CompletedPart} {xs : List Exchange} {result : Except Failure String}
    (h : Closes bucket key session parts ending xs result) (hm : number ∈ xs.flatMap (·.request.partNumbers)) :
    number ∈ parts.map (·.number) := by
  cases h <;> simpa [Request.partNumbers, abortion] using hm

/-- The numbers of a session are those of its stored parts, and those in the requests behind them. -/
theorem mem_partNumbers_of_session {n : Nat} {taken : List Part} {reads : List Nat} {xs : List Exchange}
    {result : Except Failure String} :
    number ∈ Account.partNumbers ⟨reads, ⟨.initUpload bucket key contentType, .ok session⟩ ::
        (Part.uploads bucket key session.uploadId n taken ++ xs), result⟩ ↔
      number ∈ (Part.listed n taken).map (·.number) ∨ number ∈ xs.flatMap (·.request.partNumbers) := by
  rw [Account.partNumbers, List.flatMap_cons, List.flatMap_append, Part.partNumbers_uploads]
  show number ∈ [] ++ _ ↔ _
  rw [List.nil_append, List.mem_append]

/-- Where the parts have all been taken, their numbers are those of the parts of the source. -/
theorem AllTaken.mem_pieces_iff {n i : Nat} {data : ByteArray} {pulls : List Pull} {taken : List Part}
    (h : AllTaken n pulls taken) : .part i data ∈ pulls.map Pull.piece ↔ .part i data ∈ Part.pieces n taken := by
  rcases h with h | h
  · rw [h]
  · rw [h]
    simp

/-- **The part numbers of an upload** are numbers of parts of its source. -/
theorem Course.exists_part_of_mem (h : Course bucket key contentType partSize source ending a)
    (hm : number ∈ a.partNumbers) : 0 < partSize ∧
      ∃ (i : Nat) (data : ByteArray), number = i ∧ .part i data ∈ (source.pulls partSize.toNat).map Pull.piece := by
  cases h with
  | notOpened => simp [Account.partNumbers, Request.partNumbers] at hm
  | unsplit => simp [Account.partNumbers, Request.partNumbers] at hm
  | broken h0 hb =>
    refine ⟨h0, ?_⟩
    obtain ⟨last, hprefix, hlast⟩ := hb.exists_last
    rcases mem_partNumbers_of_session.1 hm with hm | hm
    · obtain ⟨i, data, hi, hpiece⟩ := Part.mem_listed_numbers.1 hm
      exact ⟨i, data, hi, hprefix.subset (List.mem_append_left _ hpiece)⟩
    · obtain ⟨i, data, hi, rfl⟩ := hlast number hm
      exact ⟨i, data, hi, hprefix.subset (by simp)⟩
  | closed h0 _ hall hc =>
    refine ⟨h0, ?_⟩
    have hlisted := (mem_partNumbers_of_session.1 hm).elim id hc.mem_listed_of_mem
    obtain ⟨i, data, hi, hpiece⟩ := Part.mem_listed_numbers.1 hlisted
    exact ⟨i, data, hi, hall.mem_pieces_iff.2 hpiece⟩

/-- A successful upload in parts uploads every part of its source. -/
theorem Course.mem_partNumbers_of_ok (h : Course bucket key contentType partSize source ending a) {tag : String}
    (hr : a.result = .ok tag) {i : Nat} {data : ByteArray}
    (hm : .part i data ∈ (source.pulls partSize.toNat).map Pull.piece) : (i : Int) ∈ a.partNumbers := by
  cases h with
  | notOpened => cases hr
  | unsplit => cases hr
  | broken => cases hr
  | closed _ _ hall =>
    have hlisted := Part.mem_listed_numbers.2 ⟨i, data, rfl, hall.mem_pieces_iff.1 hm⟩
    exact mem_partNumbers_of_session.2 (.inl hlisted)

end

/-! ## The numbers of a creation -/

section

variable {name key : String} {contentType : Option String} {source : Source} {bytes : ByteArray} {p : Nat}
  {a : Account}

theorem partNumbers_single {bucket : String} {pull : Pull} (h : Single bucket key contentType pull a) :
    a.partNumbers = [] := by
  cases h <;> rfl

/-- No part is uploaded behind the end of the bytes. -/
theorem Creates.mul_lt_size (h : Creates (some p) name key (some bytes.size) source contentType a) (h0 : 0 < p)
    (hy : source.Yields bytes) {number : Int} (hm : number ∈ a.partNumbers) :
    1 ≤ number ∧ (number - 1) * p < bytes.size := by
  cases h with
  | refused => cases hm
  | single _ _ _ hs =>
    rw [partNumbers_single hs] at hm
    cases hm
  | @parts _ _ partSize _ _ ha hp hn hc =>
    cases hp
    cases ha.size_ok
    obtain ⟨-, i, data, rfl, hpiece⟩ := hc.exists_part_of_mem hm
    have hcuts : Split.Cuts p 1 bytes ((source.pulls p).map Pull.piece) := Source.cuts_pulls h0 hy
    obtain ⟨hle, hlt⟩ := hcuts.mul_lt_size h0 Nat.one_pos (.inl (by omega)) hpiece
    refine ⟨by omega, ?_⟩
    rw [← Int.ofNat_one, ← Int.ofNat_sub hle]
    exact_mod_cast hlt

/-- A successful upload in parts of exactly the part size uploads all parts up to the end of the bytes. -/
theorem Creates.mem_partNumbers (h : Creates (some p) name key (some bytes.size) source contentType a) (h0 : 0 < p)
    (hn : p ≤ bytes.size) (hd : source.Delivers bytes) {tag : String} (hr : a.result = .ok tag) {i : Nat} (hi : 1 ≤ i)
    (hlt : (i - 1) * p < bytes.size) : (i : Int) ∈ a.partNumbers := by
  cases h with
  | refused => cases hr
  | single ha hp hlt' =>
    cases hp
    cases ha.size_ok
    omega
  | parts ha hp _ hc =>
    cases hp
    obtain ⟨data, hm⟩ := Split.exists_part_mem_cut h0 hi hlt
    rw [← Source.piece_pulls h0 hd] at hm
    exact hc.mem_partNumbers_of_ok hr hm

end

end Upload

namespace Client

open Upload

variable (client : Client σ) (name key : String) (contentType : Option String) (o : Observed σ) {source : Source}
  {bytes : ByteArray} {p : Nat}

/-- **How high part numbers go.** The part of some number is uploaded or listed only if the parts before it leave some
bytes. So the numbers are within the limit of the service as long as the object is not larger than so many parts. They
go above it in every successful upload of a larger object, unless its source gives more than it is asked for. -/
theorem partNumbers_le_limit_iff (hp : client.partSize = some (p : Int)) (h0 : 0 < p) (hy : source.Yields bytes) :
    let a := client.account name key (some bytes.size) source contentType o
    (∀ number ∈ a.partNumbers, 1 ≤ number ∧ (number - 1) * p < bytes.size) ∧
    (bytes.size ≤ partLimit * p → ∀ number ∈ a.partNumbers, 1 ≤ number ∧ number ≤ partLimit) ∧
    (source.Delivers bytes → p ≤ bytes.size → ∀ tag, a.result = .ok tag →
      ((∀ number ∈ a.partNumbers, 1 ≤ number ∧ number ≤ partLimit) ↔ bytes.size ≤ partLimit * p)) := by
  intro a
  have h : Creates (some p) name key (some bytes.size) source contentType a := by
    rw [← hp]
    exact (client.createObject_creates name key (some bytes.size) source contentType o).2
  have hbound : ∀ number ∈ a.partNumbers, 1 ≤ number ∧ (number - 1) * p < bytes.size :=
    fun number hm => h.mul_lt_size h0 hy hm
  have hwithin : bytes.size ≤ partLimit * p → ∀ number ∈ a.partNumbers, 1 ≤ number ∧ number ≤ partLimit := by
    intro hle number hm
    obtain ⟨h1, hlt⟩ := hbound number hm
    refine ⟨h1, ?_⟩
    have hlt' : (number - 1) * (p : Int) < (partLimit : Int) * p := by
      refine Int.lt_of_lt_of_le hlt ?_
      exact_mod_cast hle
    have := Int.lt_of_mul_lt_mul_right hlt' (Int.natCast_nonneg p)
    omega
  refine ⟨hbound, hwithin, fun hd hn tag hr => ⟨fun hall => ?_, hwithin⟩⟩
  -- otherwise the part behind the limit has bytes too
  refine Nat.not_lt.1 fun hgt => ?_
  have hm : ((partLimit + 1 : Nat) : Int) ∈ a.partNumbers := h.mem_partNumbers h0 hn hd hr (by omega) hgt
  have := (hall _ hm).2
  omega

/-- Two parts of one byte each are uploaded, and their numbers are within the limit. -/
theorem partNumbers_le_limit_of_two_parts :
    let a := Client.account ⟨Memory.transport, {}, some 1⟩ "b" "k" (some 2) (.ofBytes ⟨#[7, 8]⟩) none ⟨{}, [], {}⟩
    2 ∈ a.partNumbers ∧ ∀ number ∈ a.partNumbers, 1 ≤ number ∧ number ≤ partLimit := by
  intro a
  have hd : (Source.ofBytes ⟨#[7, 8]⟩).Delivers ⟨#[7, 8]⟩ := Source.delivers_ofBytes (by decide) rfl _
  have hok : a.result.isOk = true := by decide +kernel
  obtain ⟨tag, hr⟩ : ∃ tag, a.result = .ok tag := by
    cases hr : a.result with
    | ok tag => exact ⟨tag, rfl⟩
    | error e =>
      rw [hr] at hok
      cases hok
  obtain ⟨-, -, h⟩ := partNumbers_le_limit_iff ⟨Memory.transport, {}, some 1⟩ "b" "k" none ⟨{}, [], {}⟩ rfl
    Nat.one_pos hd.yields
  exact ⟨by decide +kernel, (h hd (by decide) tag hr).2 (by decide)⟩

/-! ## A service that fails nothing -/

section

variable (settings : Settings)

/-- Without outcomes to play back, a scripted service responds as one in good order. -/
theorem respond_of_no_outcomes {s : S3.Scripted} (hs : s.outcomes = []) (call : S3.Call) :
    S3.scripted.respond call s = (.ok (S3.Scripted.standard (s.calls ++ [call]) call), ⟨[], s.calls ++ [call]⟩) := by
  simp only [S3.scripted, hs, S3.Scripted.pick]

theorem outcomes_perform (request : Request) {s : S3.Scripted} (hs : s.outcomes = []) :
    ((S3.transport settings S3.scripted).perform request s).2.outcomes = [] := by
  simp only [S3.transport]
  cases S3.callFor settings request with
  | error e => exact hs
  | ok call =>
    simp only [respond_of_no_outcomes hs]

/-- It fails none of the requests that make up an upload. -/
theorem exists_answer_of_no_outcomes {s : S3.Scripted} (hs : s.outcomes = []) {request : Request}
    (hr : (∃ bucket key contentType, request = .initUpload bucket key contentType) ∨
      (∃ bucket key id number length data, request = .uploadPart bucket key id number (some length) data) ∨
      ∃ bucket key id parts, request = .completeUpload bucket key id parts) :
    ∃ answer, ((S3.transport settings S3.scripted).perform request s).1 = .ok answer := by
  rcases hr with ⟨bucket, key, contentType, rfl⟩ | ⟨bucket, key, id, number, length, data, rfl⟩ |
    ⟨bucket, key, id, parts, rfl⟩
  · simp [S3.transport, S3.callFor, respond_of_no_outcomes hs, S3.Scripted.standard, S3.answer, Value.field,
      Value.truth, Except.map]
  · simp [S3.transport, S3.callFor, respond_of_no_outcomes hs, S3.Scripted.standard, S3.answer, Value.field,
      Value.truth, Except.map]
  · simp [S3.transport, S3.callFor, respond_of_no_outcomes hs, S3.Scripted.standard, S3.answer, Value.field,
      Value.textOrEmpty, Value.truth]

/-- Over such a service, an object of more parts than the service takes is uploaded to the end, with numbers above its
limit. -/
theorem exists_partNumber_above {p : Nat} (h0 : 0 < p) {bytes : ByteArray} (hlt : partLimit * p < bytes.size) :
    ∃ number ∈ (Client.account ⟨S3.transport settings S3.scripted, settings, some (p : Int)⟩ "b" "k" (some bytes.size)
      (.ofBytes bytes) none ⟨{}, [], {}⟩).partNumbers, partLimit < number := by
  obtain ⟨hrun, hc⟩ := createObject_creates ⟨S3.transport settings S3.scripted, settings, some (p : Int)⟩ "b" "k"
    (some bytes.size) (.ofBytes bytes) none ⟨{}, [], {}⟩
  generalize Client.account _ "b" "k" (some (bytes.size : Int)) (.ofBytes bytes) none _ = a at hrun hc
  have hd : (Source.ofBytes bytes).Delivers bytes := Source.delivers_ofBytes (by decide) rfl bytes
  have hle : p ≤ bytes.size := by
    have : 1 * p ≤ partLimit * p := Nat.mul_le_mul_right p (by decide)
    omega
  have hfailed : ∀ {request : Request} {e : Failure}, (⟨request, .error e⟩ : Exchange) ∈ a.exchanges →
      ¬((∃ bucket key contentType, request = .initUpload bucket key contentType) ∨
        (∃ bucket key id number length data, request = .uploadPart bucket key id number (some length) data) ∨
        ∃ bucket key id parts, request = .completeUpload bucket key id parts) := by
    intro request e hx hr
    obtain ⟨m, hm, hanswer⟩ := hrun.exists_of_mem (P := fun s => s.outcomes = [])
      (fun request s hs => outcomes_perform settings request hs) rfl hx
    obtain ⟨answer, hok⟩ := exists_answer_of_no_outcomes settings hm hr
    cases hok.symm.trans hanswer
  have hresult : ∃ tag, a.result = .ok tag := by
    cases id hc with
    | refused h =>
      rcases h with h | h
      · exact absurd ⟨rfl, rfl, rfl⟩ (h "b" bytes.size)
      · cases h
    | single ha hp hn =>
      cases hp
      cases ha.size_ok
      omega
    | parts _ hp _ hcourse =>
      cases hp
      rcases hcourse.ok_or_failed (by omega) hd.yields.unfailing with h | ⟨e, h | ⟨_, _, _, h⟩ | ⟨_, _, h⟩⟩
      · exact h
      · exact absurd (.inl ⟨_, _, _, rfl⟩) (hfailed h)
      · exact absurd (.inr (.inl ⟨_, _, _, _, _, _, rfl⟩)) (hfailed h)
      · exact absurd (.inr (.inr ⟨_, _, _, _, rfl⟩)) (hfailed h)
  obtain ⟨tag, hr⟩ := hresult
  exact ⟨(partLimit + 1 : Nat), hc.mem_partNumbers h0 hle hd hr (by omega) hlt, by omega⟩

end

/-- One byte more than the limit goes above it in parts of one byte, and so does an object above the limit in parts of
the size that uploads use unless told otherwise. -/
theorem partNumbers_above_limit :
    let upload (p : Int) (size : Nat) := Client.account ⟨S3.transport {} S3.scripted, {}, some p⟩ "b" "k" (some size)
      (.ofBytes ⟨Array.replicate size 0⟩) none ⟨{}, [], {}⟩
    (¬∀ number ∈ (upload 1 10001).partNumbers, 1 ≤ number ∧ number ≤ partLimit) ∧
      ¬∀ number ∈ (upload defaultPartSize 52428800001).partNumbers, 1 ≤ number ∧ number ≤ partLimit := by
  have habove : ∀ {p size : Nat}, 0 < p → partLimit * p < size →
      ¬∀ number ∈ (Client.account ⟨S3.transport {} S3.scripted, {}, some (p : Int)⟩ "b" "k" (some size)
        (.ofBytes ⟨Array.replicate size 0⟩) none ⟨{}, [], {}⟩).partNumbers, 1 ≤ number ∧ number ≤ partLimit := by
    intro p size h0 hlt hall
    have hsize : (⟨Array.replicate size 0⟩ : ByteArray).size = size := Array.size_replicate
    rw [← hsize] at hlt
    obtain ⟨number, hm, hgt⟩ := exists_partNumber_above {} h0 hlt
    rw [hsize] at hm
    have := (hall number hm).2
    omega
  intro upload
  have hdefault : defaultPartSize = (5242880 : Nat) := by decide
  exact ⟨habove (by decide) (by decide), hdefault ▸ habove (by decide) (by decide)⟩

end Client

end BucketClient
