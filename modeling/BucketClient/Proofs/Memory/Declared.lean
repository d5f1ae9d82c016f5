import BucketClient.Proofs.Client.Command
import BucketClient.Proofs.Memory.RoundTrip
import BucketClient.Proofs.Part.Chunks

/-!
# The declared size of an upload

The size that is declared for a source chooses the way of the upload, and is compared with nothing else.
`createObject_of_declared` says, for every declared size, what is then stored of a source that does not fail: all that
it gives, if the size is not below the part size; otherwise its first part. An upload that fails stores nothing. So a
size that is not declared truthfully goes unnoticed, and one below the part size cuts a longer source off
(`createObject_cuts_off`).
-/

namespace BucketClient

/-! ## Splits of unfailing sources -/

/-- The split of an unfailing source ends with its data. -/
theorem Source.Unfailing.splits {size : Nat} {source : Source} (h0 : 0 < size) (h : source.Unfailing) :
    Split.Splits size 1 ByteArray.empty source (source.pulls size) none := by
  obtain ⟨ending, hs⟩ := Split.exists_splits_pulls h0 source
  cases ending with
  | none => exact hs
  | some e =>
    obtain ⟨n, hfailed⟩ := hs.exists_failedPiece
    rw [Split.failedPiece] at hfailed
    rcases h.part_or_finished h0 hfailed with h | ⟨_, _, h⟩
    · split at h <;> cases h
    · split at h <;> cases h

namespace Memory

open Upload

section

variable {partSize size : Nat} {source : Source}

/-- What is uploaded of an unfailing source. -/
theorem uploaded_of_unfailing (h0 : 0 < partSize) (hs : source.Unfailing) : uploaded partSize size source =
    if size < partSize then (source.firstPull partSize).piece.payload else gathered (source.conversation partSize) := by
  unfold uploaded
  rw [Int.toNat_natCast]
  by_cases h : size < partSize
  · rw [if_pos h, if_pos (Int.ofNat_lt.2 h)]
  · rw [if_neg h, if_neg fun hlt => h (Int.ofNat_lt.1 hlt)]
    exact (hs.splits h0).joined_eq

/-- The bytes of an unfailing source start with those of its first part, which is full if others follow. -/
theorem exists_rest (h0 : 0 < partSize) (hs : source.Unfailing) :
    ∃ rest, gathered (source.conversation partSize) = (source.firstPull partSize).piece.payload ++ rest ∧
      (rest ≠ ByteArray.empty → partSize ≤ (source.firstPull partSize).piece.payload.size) ∧
      ((∀ turn ∈ source.conversation partSize, turn.bytes.size ≤ turn.asked) →
        (source.firstPull partSize).piece.payload.size ≤ partSize) := by
  obtain ⟨first, others, rest, hpulls, hbytes, hfull, hm⟩ := (hs.splits h0).exists_first h0
  have hfirst : source.firstPull partSize = first := by simp [Source.firstPull, hpulls]
  rw [hfirst]
  exact ⟨rest, hbytes, hfull, hm⟩

end

section

variable (settings : Settings) (name key : String) (source : Source) (contentType : Option String) (o : Observed Store)

/-- The account of an upload is one of those described, and its exchanges are a run of the store. -/
theorem creates_of_client (partSize size : Option Int) :
    let report := (client settings partSize).createObject name key size source contentType o
    ∃ a : Account, a.result = report.result ∧ Creates partSize name key size source contentType a ∧
      transport.Runs o.transport a.exchanges report.after.transport := by
  have hcreates := (client settings partSize).createObject_creates name key size source contentType o
  have hr := (client settings partSize).result_account name key size source contentType o
  generalize (client settings partSize).createObject name key size source contentType o = report at hcreates hr ⊢
  generalize (client settings partSize).account name key size source contentType o = a at hcreates hr
  exact ⟨a, hr, hcreates.2, hcreates.1⟩

/-- An upload that fails leaves the objects as they were. -/
theorem objects_of_error (partSize size : Option Int) {e : Failure} :
    let report := (client settings partSize).createObject name key size source contentType o
    report.result = .error e → report.after.transport.objects = o.transport.objects := by
  have hcreates := creates_of_client settings name key source contentType o partSize size
  generalize (client settings partSize).createObject name key size source contentType o = report at hcreates ⊢
  obtain ⟨a, hr, hc, hrun⟩ := hcreates
  intro report he
  have hp := hc.preliminary_or_stores
  rw [hr, he] at hp
  exact (keeps_of_runs hrun hp).objects

/-- An upload that returns has stored the bytes that are uploaded. -/
theorem exists_object_of_ok (partSize size : Int) {tag : String} :
    let report := (client settings (some partSize)).createObject name key (some size) source contentType o
    report.result = .ok tag → ∃ bucket object, Argument.bucket name = .ok bucket ∧
      report.after.transport.objects.get? (objectPath bucket key) = some object ∧ object.tag = tag ∧
      object.data = uploaded partSize size source := by
  have hcreates := creates_of_client settings name key source contentType o (some partSize) (some size)
  generalize (client settings (some partSize)).createObject name key (some size) source contentType o = report
    at hcreates ⊢
  obtain ⟨a, hresult, hc, hrun⟩ := hcreates
  intro report hr
  obtain ⟨bucket, hb, hgains⟩ := gains_of_ok hc (hresult.trans hr) hrun
  refine ⟨bucket, ⟨bucket, key, uploaded partSize size source, tag, contentType⟩, hb, ?_, rfl, rfl⟩
  rw [hgains.objects]
  exact Dictionary.get?_insert_self ..

variable {name key} {source} in
/-- Without injected failures, an upload of an unfailing source returns. -/
theorem exists_tag_of_faultless {partSize size : Nat} (h0 : 0 < partSize) (hs : source.Unfailing)
    (hf : o.transport.faults = {}) (hb : Text.strip name ≠ "") (hk : key ≠ "") :
    ∃ tag, ((client settings (some (partSize : Int))).createObject name key (some (size : Int)) source contentType
      o).result = .ok tag := by
  obtain ⟨a, hresult, hc, hrun⟩ :=
    creates_of_client settings name key source contentType o (some (partSize : Int)) (some (size : Int))
  have ha : Accepted name key (some (size : Int)) (Text.strip name) size :=
    ⟨Argument.bucket_of_ne hb, Argument.key_of_ne hk, Argument.natural_of_nonneg (Int.natCast_nonneg size)⟩
  rw [← hresult]
  exact exists_tag_of_creates ha (Int.natCast_pos.2 h0) hs hf hc hrun

/-- Of two sizes on the same side of the part size it does not matter which one is declared. -/
theorem createObject_of_same_side {partSize size other : Nat} (h : other < partSize ↔ size < partSize) :
    (client settings (some (partSize : Int))).createObject name key (some (other : Int)) source contentType o =
      (client settings (some (partSize : Int))).createObject name key (some (size : Int)) source contentType o := by
  have hsize : ∀ n : Nat, Argument.size (some (n : Int)) = .ok (n : Int) := fun n =>
    Argument.natural_of_nonneg (Int.natCast_nonneg n)
  unfold Client.createObject create
  rw [hsize, hsize]
  cases Argument.bucket name with
  | error e => rfl
  | ok bucket =>
    cases Argument.key key with
    | error e => rfl
    | ok key =>
      simp only [client, bind, Except.bind, pure, Except.pure, Int.ofNat_lt, h]

end

/-- **What is stored of a source that does not fail**, whatever size is declared for it and whatever failures are
injected. An upload that returns has stored all bytes that the source gives, if the declared size is not below the part
size, and its first part otherwise; one that fails has stored nothing. Without injected failures it returns. Sizes on
the same side of the part size make no difference, and if the number of the bytes is declared, all of them are stored.
If no read gives more than it asks for, the first part is as many bytes as a part has, and all bytes are stored iff the
declared size is not below the part size or the bytes fit into one part. -/
theorem createObject_of_declared (settings : Settings) {partSize : Nat} (h0 : 0 < partSize) (name key : String)
    (size : Nat) {source : Source} (hs : source.Unfailing) (contentType : Option String) (o : Observed Store) :
    let c := client settings (some (partSize : Int))
    let report := c.createObject name key (some (size : Int)) source contentType o
    let bytes := gathered (source.conversation partSize)
    let first := (source.firstPull partSize).piece.payload
    let stored := if size < partSize then first else bytes
    (∀ tag, report.result = .ok tag → ∃ bucket object, Argument.bucket name = .ok bucket ∧
      report.after.transport.objects.get? (objectPath bucket key) = some object ∧ object.tag = tag ∧
      object.data = stored) ∧
    (∀ e, report.result = .error e → report.after.transport.objects = o.transport.objects) ∧
    (o.transport.faults = {} → Text.strip name ≠ "" → key ≠ "" → ∃ tag, report.result = .ok tag) ∧
    (∀ other : Nat, (other < partSize ↔ size < partSize) →
      c.createObject name key (some (other : Int)) source contentType o = report) ∧
    (size = bytes.size → stored = bytes) ∧
    ((∀ turn ∈ source.conversation partSize, turn.bytes.size ≤ turn.asked) →
      first = bytes.extract 0 partSize ∧ (stored = bytes ↔ partSize ≤ size ∨ bytes.size ≤ partSize)) := by
  dsimp only
  obtain ⟨rest, hbytes, hfull, hm⟩ := exists_rest h0 hs
  have huploaded := @uploaded_of_unfailing partSize size source h0 hs
  generalize gathered (source.conversation partSize) = bytes at hbytes huploaded ⊢
  generalize (source.firstPull partSize).piece.payload = first at hbytes hfull hm huploaded ⊢
  have hsize : bytes.size = first.size + rest.size := by rw [hbytes, ByteArray.size_append]
  have hall : rest = ByteArray.empty → first = bytes := by
    rintro rfl
    rw [hbytes, ByteArray.append_empty]
  refine ⟨fun tag hr => ?_, fun e he => objects_of_error settings name key source contentType o _ _ he,
    fun hf hb hk => exists_tag_of_faultless settings contentType o h0 hs hf hb hk,
    fun other h => createObject_of_same_side settings name key source contentType o h,
    fun htrue => ?_, fun hmoderate => ⟨?_, ?_⟩⟩
  · rw [← huploaded]
    exact exists_object_of_ok settings name key source contentType o _ _ hr
  · by_cases hlt : size < partSize
    · refine (if_pos hlt).trans (hall (Classical.not_not.1 fun hrest => ?_))
      have := hfull hrest
      omega
    · exact if_neg hlt
  · have hle : first.size ≤ partSize := hm hmoderate
    by_cases hrest : rest = ByteArray.empty
    · rw [← hall hrest, Split.extract_of_size_le hle, ByteArray.extract_zero_size]
    · rw [hbytes]
      exact (ByteArray.extract_append_eq_left (Nat.le_antisymm (hfull hrest) hle)).symm
  · have hle : first.size ≤ partSize := hm hmoderate
    by_cases hlt : size < partSize
    · rw [if_pos hlt]
      constructor
      · intro heq
        rw [← heq]
        exact .inr hle
      · rintro (h | h)
        · omega
        · refine hall (Classical.not_not.1 fun hrest => ?_)
          have := hfull hrest
          have := Split.size_pos_of_ne hrest
          omega
    · exact iff_of_true (if_neg hlt) (.inl (Nat.not_lt.1 hlt))

/-- A source of three bytes for which four are declared: all three are stored. -/
theorem createObject_of_declared_four :
    ∃ bucket object, Argument.bucket "b" = .ok bucket ∧
      ((client {} (some 2)).createObject "b" "k" (some 4) (.ofBytes ⟨#[1, 2, 3]⟩) none
        ⟨{}, [], {}⟩).after.transport.objects.get? (objectPath bucket "k") = some object ∧
      object.data = ⟨#[1, 2, 3]⟩ := by
  have hs : (Source.ofBytes ⟨#[1, 2, 3]⟩).Unfailing :=
    (Source.delivers_ofBytes (by decide) rfl _).yields.unfailing
  obtain ⟨hok, -, hreturns, -, -, -⟩ :=
    createObject_of_declared {} (show 0 < 2 by decide) "b" "k" 4 hs none ⟨{}, [], {}⟩
  obtain ⟨tag, htag⟩ := hreturns rfl (by decide) (by decide)
  obtain ⟨bucket, object, hb, ho, -, hdata⟩ := hok tag htag
  exact ⟨bucket, object, hb, ho, hdata.trans (by decide +kernel)⟩

/-- A source of three bytes for which one is declared, below a part size of two: the upload returns, and two bytes are
stored. -/
theorem createObject_cuts_off :
    (Source.ofBytes ⟨#[1, 2, 3]⟩).Delivers ⟨#[1, 2, 3]⟩ ∧
      let report := (client {} (some 2)).createObject "b" "k" (some 1) (.ofBytes ⟨#[1, 2, 3]⟩) none ⟨{}, [], {}⟩
      report.result.toOption = some (payloadTag ⟨#[1, 2]⟩) ∧
        (report.after.transport.objects.get? "b/k").map (·.data) = some ⟨#[1, 2]⟩ :=
  ⟨Source.delivers_ofBytes (by decide) rfl _, by decide +kernel, by decide +kernel⟩

end Memory

end BucketClient
