import BucketClient.Proofs.Listing.Undisturbed
import BucketClient.Proofs.Memory.Shelf

/-!
# A store that represents a shelf

The store in memory keeps its objects in one dictionary, under paths in which the bucket and the key are run together,
and goes by a field of the objects when it lists a bucket or is to delete it. As long as no bucket has a slash in its
name, paths are as good as pairs (`objectPath_inj`), and the dictionary and the fields tell the same
(`Represents.has_iff`). `Represents` relates such a store to its shelf; the lemmas after it say what the store answers
in terms of the shelf, and which changes of the two keep them related.
-/

namespace BucketClient

open Memory

/-! ## Paths -/

theorem eq_of_append_cons {α : Type} {a : α} {xs ys us vs : List α} (hx : a ∉ xs) (hy : a ∉ ys)
    (h : xs ++ a :: us = ys ++ a :: vs) : xs = ys ∧ us = vs := by
  induction xs generalizing ys with
  | nil =>
    cases ys with
    | nil => exact ⟨rfl, (List.cons.inj h).2⟩
    | cons y ys => exact absurd (List.mem_cons.2 (.inl (List.cons.inj h).1)) hy
  | cons x xs ih =>
    cases ys with
    | nil => exact absurd (List.mem_cons.2 (.inl (List.cons.inj h).1.symm)) hx
    | cons y ys =>
      obtain ⟨rfl, htail⟩ := List.cons.inj h
      obtain ⟨rfl, rfl⟩ :=
        ih (fun hm => hx (List.mem_cons_of_mem _ hm)) (fun hm => hy (List.mem_cons_of_mem _ hm)) htail
      exact ⟨rfl, rfl⟩

/-- The path of an object tells its bucket and its key, since the first slash is behind the bucket. -/
theorem objectPath_inj {bucket bucket' key key' : String} (hb : '/' ∉ bucket.toList) (hb' : '/' ∉ bucket'.toList) :
    objectPath bucket key = objectPath bucket' key' ↔ bucket = bucket' ∧ key = key' := by
  constructor
  · intro h
    have hchars : bucket.toList ++ '/' :: key.toList = bucket'.toList ++ '/' :: key'.toList := by
      simpa [objectPath] using congrArg String.toList h
    obtain ⟨hbucket, hkey⟩ := eq_of_append_cons hb hb' hchars
    exact ⟨String.toList_inj.1 hbucket, String.toList_inj.1 hkey⟩
  · rintro ⟨rfl, rfl⟩
    rfl

namespace Shelf

/-- An object as the store keeps it. -/
def Entry.stored (entry : Entry) (bucket key : String) : StoredObject :=
  ⟨bucket, key, entry.data, entry.tag, entry.contentType⟩

/-- The store has the objects and the buckets of the shelf and no others, in buckets without a slash, and fails no
request by injection. -/
structure Represents (shelf : Shelf) (s : Store) : Prop where
  sound : s.Sound
  faultless : s.faults = {}
  slashless : ∀ entry ∈ s.objects.entries, '/' ∉ entry.2.bucket.toList
  object : ∀ {bucket}, '/' ∉ bucket.toList → ∀ key,
    s.objects.get? (objectPath bucket key) = (shelf.objects bucket key).map (·.stored bucket key)
  nodup : s.buckets.keys.Nodup
  bucket : ∀ bucket, s.buckets.get? bucket = (shelf.rules bucket).map (⟨·, s.now⟩)

theorem represents_empty (now : Value) : empty.Represents { now := now } where
  sound := (Store.Reached.new now).sound
  faultless := rfl
  slashless := List.forall_mem_nil _
  object _ _ := rfl
  nodup := List.nodup_nil
  bucket _ := rfl

namespace Represents

variable {shelf : Shelf} {s s' : Store} {bucket key : String}

/-! ## What the store answers -/

section

variable (h : shelf.Represents s) (hb : '/' ∉ bucket.toList)

include h hb

/-- The objects that the store lists for a bucket are those that it finds under their paths. -/
theorem has_iff : s.Has bucket key ↔ ∃ entry, shelf.objects bucket key = some entry := by
  constructor
  · rintro ⟨object, hm, rfl, rfl⟩
    obtain ⟨entry, he, rfl⟩ := List.mem_map.1 hm
    have hfound : s.objects.get? (objectPath entry.2.bucket entry.2.key) = some entry.2 := by
      rw [← h.sound.path_eq entry he]
      exact Dictionary.get?_of_mem h.sound.nodup he
    rw [h.object hb, Option.map_eq_some_iff] at hfound
    obtain ⟨found, hfound, -⟩ := hfound
    exact ⟨found, hfound⟩
  · rintro ⟨entry, he⟩
    have hfound := h.object hb key
    rw [he] at hfound
    exact ⟨entry.stored bucket key, List.mem_map_of_mem (Dictionary.mem_of_get? hfound), rfl, rfl⟩

theorem info_of_some {entry : Entry} (he : shelf.objects bucket key = some entry) :
    s.info bucket key = .ok (entry.info key) := by
  have hfound := h.object hb key
  rw [he] at hfound
  simp only [Store.info, hfound, Option.map_some]
  rfl

theorem info_of_none (he : shelf.objects bucket key = none) :
    s.info bucket key = .error (.storage (.unknownObject (objectPath bucket key))) := by
  have hfound := h.object hb key
  rw [he] at hfound
  simp only [Store.info, hfound, Option.map_none]

theorem getObject_of_some {entry : Entry} {offset length : Int} (he : shelf.objects bucket key = some entry)
    (ho : 0 ≤ offset) (hl : 0 ≤ length) :
    s.getObject bucket key (some offset) (some length) = .ok (entry.stretch offset length, entry.info key) := by
  obtain ⟨first, rfl⟩ := Int.eq_ofNat_of_zero_le ho
  obtain ⟨count, rfl⟩ := Int.eq_ofNat_of_zero_le hl
  have hfound := h.object hb key
  rw [he] at hfound
  simp only [Store.getObject, hfound, Option.map_some, Store.stretch_ofNat, Except.map, slice_ofNat]
  simp only [Entry.stretch, Int.toNat_natCast, Int.natCast_eq_zero]
  rfl

theorem getObject_of_none (he : shelf.objects bucket key = none) (offset length : Option Int) :
    s.getObject bucket key offset length = .error (.storage (.unknownObject (objectPath bucket key))) := by
  have hfound := h.object hb key
  rw [he] at hfound
  simp only [Store.getObject, hfound, Option.map_none]

/-- What the store lists for a stem is what is known of the objects of the shelf. -/
theorem mem_listed_iff {stem : String} {infos : List ObjectInfo}
    (hkeys : infos.map (·.key) = s.listedKeys bucket "" stem "")
    (hfound : ∀ info ∈ infos, s.info bucket info.key = .ok info) (info : ObjectInfo) :
    info ∈ infos ↔ stem.toList <+: info.key.toList ∧
      ∃ entry, shelf.objects bucket info.key = some entry ∧ info = entry.info info.key := by
  constructor
  · intro hi
    have hlisted : info.key ∈ s.listedKeys bucket "" stem "" := hkeys ▸ List.mem_map_of_mem hi
    obtain ⟨hhas, hstem⟩ := h.sound.mem_listedKeys_start.1 hlisted
    obtain ⟨entry, he⟩ := (h.has_iff hb).1 hhas
    have heq := (hfound info hi).symm.trans (h.info_of_some hb he)
    exact ⟨hstem, entry, he, Except.ok.inj heq⟩
  · rintro ⟨hstem, entry, he, hinfo⟩
    have hhas : s.Has bucket info.key := (h.has_iff hb).2 ⟨entry, he⟩
    have hlisted : info.key ∈ infos.map (·.key) := hkeys ▸ h.sound.mem_listedKeys_start.2 ⟨hhas, hstem⟩
    obtain ⟨other, ho, hkey⟩ := List.mem_map.1 hlisted
    have hother := hfound other ho
    rw [hkey, h.info_of_some hb he, ← hinfo] at hother
    exact Except.ok.inj hother ▸ ho

/-- The store goes by the field of its objects, and finds one if there is one on the shelf. -/
theorem any_bucket_iff :
    s.objects.values.any (·.bucket == bucket) = true ↔ ∃ key entry, shelf.objects bucket key = some entry := by
  simp only [List.any_eq_true, beq_iff_eq]
  constructor
  · rintro ⟨object, hm, hbucket⟩
    exact ⟨object.key, (h.has_iff hb).1 ⟨object, hm, hbucket, rfl⟩⟩
  · rintro ⟨key, he⟩
    obtain ⟨object, hm, hbucket, -⟩ := (h.has_iff hb).2 he
    exact ⟨object, hm, hbucket⟩

theorem deleteBucket_of_exists (he : ∃ key entry, shelf.objects bucket key = some entry) :
    s.deleteBucket bucket = (.error (.storage (.bucketNotEmpty bucket)), s) := by
  rw [Store.deleteBucket, if_pos ((h.any_bucket_iff hb).2 he)]

theorem deleteBucket_of_not_exists (he : ¬∃ key entry, shelf.objects bucket key = some entry) :
    s.deleteBucket bucket = (.ok (), { s with buckets := s.buckets.erase bucket }) := by
  rw [Store.deleteBucket, if_neg fun hany => he ((h.any_bucket_iff hb).1 hany)]

end

section

variable (h : shelf.Represents s) {rule : String}

include h

theorem contains_eq : s.buckets.contains bucket = (shelf.rules bucket).isSome := by
  rw [Dictionary.contains, h.bucket, Option.isSome_map]

theorem putBucket_of_none (he : shelf.rules bucket = none) (acl : String) :
    s.putBucket bucket acl = (.ok (), { s with buckets := s.buckets.insert bucket ⟨acl, s.now⟩ }) := by
  rw [Store.putBucket, h.contains_eq, he]
  rfl

theorem putBucket_of_some (he : shelf.rules bucket = some rule) (acl : String) :
    s.putBucket bucket acl = (.error (.storage (.bucketExists bucket)), s) := by
  rw [Store.putBucket, h.contains_eq, he]
  rfl

theorem putBucketAcl_of_none (he : shelf.rules bucket = none) (acl : String) :
    s.putBucketAcl bucket acl = (.error (.storage (.unknownBucket bucket)), s) := by
  rw [Store.putBucketAcl, h.bucket, he]
  rfl

theorem putBucketAcl_of_some (he : shelf.rules bucket = some rule) (acl : String) :
    s.putBucketAcl bucket acl = (.ok (), { s with buckets := s.buckets.insert bucket ⟨acl, s.now⟩ }) := by
  rw [Store.putBucketAcl, h.bucket, he]
  rfl

theorem headBucket_of_none (he : shelf.rules bucket = none) :
    s.headBucket bucket = .error (.storage (.unknownBucket bucket)) := by
  rw [Store.headBucket, h.contains_eq, he]
  rfl

theorem headBucket_of_some (he : shelf.rules bucket = some rule) : s.headBucket bucket = .ok () := by
  rw [Store.headBucket, h.contains_eq, he]
  rfl

end

/-- The listed buckets of the store are those of the shelf. -/
theorem mem_listBuckets (h : shelf.Represents s) (info : BucketInfo) :
    info ∈ s.listBuckets ↔ (∃ rule, shelf.rules info.name = some rule) ∧ info.createdAt = s.now := by
  simp only [Store.listBuckets, List.mem_map, List.mem_mergeSort]
  constructor
  · rintro ⟨entry, he, rfl⟩
    have hfound := Dictionary.get?_of_mem h.nodup he
    rw [h.bucket, Option.map_eq_some_iff] at hfound
    obtain ⟨rule, hrule, heq⟩ := hfound
    exact ⟨⟨rule, hrule⟩, by rw [← heq]⟩
  · rintro ⟨⟨rule, hrule⟩, hnow⟩
    have hfound := h.bucket info.name
    rw [hrule] at hfound
    exact ⟨_, Dictionary.mem_of_get? hfound, by rw [← hnow]⟩

theorem pairwise_listBuckets (h : shelf.Represents s) : (s.listBuckets.map (·.name)).Pairwise (· < ·) := by
  have hnames : s.listBuckets.map (·.name) = s.buckets.keys.mergeSort fun a b => !decide (b < a) := by
    rw [Store.listBuckets, List.map_map]
    exact List.map_mergeSort fun _ _ _ _ => rfl
  rw [hnames]
  exact Store.pairwise_sorted h.nodup

/-! ## Changes -/

theorem of_agrees (h : shelf.Represents s) (ha : s.Agrees s') : shelf.Represents s' where
  sound := h.sound.of_objects ha.objects
  faultless := ha.faults.trans h.faultless
  slashless := by
    rw [ha.objects]
    exact h.slashless
  object := by
    rw [ha.objects]
    exact h.object
  nodup := by
    rw [ha.buckets]
    exact h.nodup
  bucket := by
    rw [ha.buckets, ha.now]
    exact h.bucket

/-- An object is stored. -/
theorem of_gains {object : StoredObject} (h : shelf.Represents s) (hg : s.Gains object s') (hf : s'.faults = s.faults)
    (hn : s'.now = s.now) (hb : '/' ∉ object.bucket.toList) (hk : object.key ≠ "") :
    (shelf.setObject object.bucket object.key
      (some ⟨object.data, object.tag, object.contentType⟩)).Represents s' where
  sound := h.sound.of_insert object hk hg.objects
  faultless := hf.trans h.faultless
  slashless entry he := by
    rw [hg.objects] at he
    rcases Dictionary.mem_insertEntry he with rfl | he
    · exact hb
    · exact h.slashless entry he
  object {bucket} hb' key := by
    rw [hg.objects, Dictionary.get?_insert, h.object hb']
    simp only [objectPath_inj hb' hb, setObject]
    split
    · rename_i heq
      obtain ⟨rfl, rfl⟩ := heq
      rfl
    · rfl
  nodup := by
    rw [hg.buckets]
    exact h.nodup
  bucket := by
    rw [hg.buckets, hn]
    exact h.bucket

/-- An object is removed. -/
theorem of_erase (h : shelf.Represents s) (hb : '/' ∉ bucket.toList) :
    (shelf.setObject bucket key none).Represents { s with objects := s.objects.erase (objectPath bucket key) } where
  sound := h.sound.of_erase rfl
  faultless := h.faultless
  slashless entry he := h.slashless entry (List.mem_filter.1 he).1
  object {bucket'} hb' key' := by
    rw [Dictionary.get?_erase, h.object hb']
    simp only [objectPath_inj hb' hb, setObject]
    split <;> rfl
  nodup := h.nodup
  bucket := h.bucket

/-- A bucket is stored, with a new access rule or as a new one. -/
theorem of_insert_bucket (h : shelf.Represents s) (rule : String) :
    (shelf.setRule bucket (some rule)).Represents { s with buckets := s.buckets.insert bucket ⟨rule, s.now⟩ } where
  sound := h.sound.of_objects rfl
  faultless := h.faultless
  slashless := h.slashless
  object := h.object
  nodup := Dictionary.nodup_keys_insert h.nodup _ _
  bucket bucket' := by
    rw [Dictionary.get?_insert, h.bucket]
    simp only [setRule]
    split <;> rfl

/-- A bucket is removed. -/
theorem of_erase_bucket (h : shelf.Represents s) :
    (shelf.setRule bucket none).Represents { s with buckets := s.buckets.erase bucket } where
  sound := h.sound.of_objects rfl
  faultless := h.faultless
  slashless := h.slashless
  object := h.object
  nodup := Dictionary.nodup_keys_erase h.nodup _
  bucket bucket' := by
    rw [Dictionary.get?_erase, h.bucket]
    simp only [setRule]
    split <;> rfl

end Represents

end Shelf

end BucketClient
