import BucketClient.Proofs.Memory.RoundTrip
import Mathlib.Data.List.Sort

/-!
# Listings of the store in memory

* `Store.Sound`: each object is kept once, under the path of its bucket and its key, and no key is empty. It holds in
  every state that operations of clients lead to (`Store.Reached.sound`).
* `Store.Lists`: what a page of a listing without a delimiter is, in terms of the objects that are stored: some of the
  first keys behind the marker, in ascending order, and all of them unless the page is truncated.
* `Sound.listObjects_lists`: a sound store has such a page; `perform_listObjects`: it is the answer to a request.
* `Sound.listObjects_eq`: which of the listed keys the page shows; `Sound.listedKeys_of_append`: the keys behind one of
  them are those that are listed from it on; `mem_listedKeys_iff`: which of them are listed under a delimiter.
-/

namespace BucketClient

/-! ## What a request can do to the objects -/

/-- The key under which a request is to store an object. -/
def Request.storedKey? : Request → Option String
  | .completeUpload _ key _ _ | .putObject _ key _ _ _ => some key
  | _ => none

namespace Memory

/-- All that a request can do to the objects of the store. -/
inductive Alters (objects : Dictionary String StoredObject) : Request → Dictionary String StoredObject → Prop
  | keep {request : Request} : Alters objects request objects
  | store {request : Request} (object : StoredObject) (hk : request.storedKey? = some object.key) :
      Alters objects request (objects.insert (objectPath object.bucket object.key) object)
  | remove {bucket key : String} :
      Alters objects (.deleteObject bucket key) (objects.erase (objectPath bucket key))

theorem Alters.of_eq {objects objects' : Dictionary String StoredObject} {request : Request}
    (h : objects' = objects) : Alters objects request objects' := by
  rw [h]
  exact .keep

namespace Store

theorem alters_completeUpload (s : Store) (bucket key uploadId : String) (parts : List CompletedPart) :
    Alters s.objects (.completeUpload bucket key uploadId parts)
      (s.completeUpload bucket key uploadId parts).2.objects := by
  cases h : (s.completeUpload bucket key uploadId parts).1 with
  | error e =>
    have hserve : (s.serve (.completeUpload bucket key uploadId parts)).1 = .error e := h
    exact .of_eq (serve_of_error hserve).1
  | ok tag =>
    obtain ⟨upload, data, -, -, hs⟩ := completeUpload_of_ok h
    rw [hs]
    exact .store ⟨bucket, key, data, tag, upload.contentType⟩ rfl

theorem objects_serve_listObjects (s : Store) (bucket : String) (maxKeys : Option Int)
    (marker stem delimiter : Option String) :
    (s.serve (.listObjects bucket maxKeys marker stem delimiter)).2.objects = s.objects := by
  simp only [serve]
  split
  · rfl
  · split <;> rfl

theorem alters_serve (request : Request) (s : Store) : Alters s.objects request (s.serve request).2.objects := by
  cases request with
  | uploadPart _ _ uploadId number length data => exact .of_eq (s.keeps_uploadPart uploadId number length data).objects
  | abortUpload _ _ uploadId => exact .of_eq (s.keeps_abortUpload uploadId).objects
  | completeUpload bucket key uploadId parts => exact alters_completeUpload s bucket key uploadId parts
  | putObject bucket key _ data contentType =>
    exact .store ⟨bucket, key, data, payloadTag data, contentType⟩ rfl
  | deleteObject => exact .remove
  | listObjects => exact .of_eq (objects_serve_listObjects s ..)
  | putBucket | putBucketAcl | deleteBucket =>
    refine .of_eq ?_
    simp only [serve, putBucket, putBucketAcl, deleteBucket]
    split <;> rfl
  | initUpload | getObject | headObject | headBucket | listBuckets => exact .keep

theorem alters_perform (request : Request) (s : Store) : Alters s.objects request (s.perform request).2.objects := by
  cases hf : s.faults.methods.get? request.method.name with
  | some error =>
    rw [perform_of_fault hf]
    exact .keep
  | none =>
    rw [perform_of_not_fault hf]
    exact alters_serve request { s with calls := s.calls ++ [request] }

/-! ## States that operations lead to -/

/-- A store in which each object is kept once and under its path, and has a key that is not empty. -/
structure Sound (s : Store) : Prop where
  nodup : s.objects.keys.Nodup
  path_eq : ∀ entry ∈ s.objects.entries, entry.1 = objectPath entry.2.bucket entry.2.key
  key_ne : ∀ entry ∈ s.objects.entries, entry.2.key ≠ ""

theorem Sound.of_objects {s s' : Store} (h : s.Sound) (ho : s'.objects = s.objects) : s'.Sound := by
  obtain ⟨hn, hp, hk⟩ := h
  constructor <;> rwa [ho]

/-- An object with a key may be stored under its path. -/
theorem Sound.of_insert {s s' : Store} (h : s.Sound) (object : StoredObject) (hk : object.key ≠ "")
    (ho : s'.objects = s.objects.insert (objectPath object.bucket object.key) object) : s'.Sound := by
  constructor
  · rw [ho]
    exact Dictionary.nodup_keys_insert h.nodup _ _
  · intro entry he
    rw [ho] at he
    rcases Dictionary.mem_insertEntry he with rfl | he
    · rfl
    · exact h.path_eq entry he
  · intro entry he
    rw [ho] at he
    rcases Dictionary.mem_insertEntry he with rfl | he
    · exact hk
    · exact h.key_ne entry he

theorem Sound.of_erase {s s' : Store} (h : s.Sound) {path : String} (ho : s'.objects = s.objects.erase path) :
    s'.Sound := by
  have hmem : ∀ entry ∈ s'.objects.entries, entry ∈ s.objects.entries := by
    intro entry he
    rw [ho] at he
    exact (List.mem_filter.1 he).1
  constructor
  · rw [ho]
    exact Dictionary.nodup_keys_erase h.nodup _
  · exact fun entry he => h.path_eq entry (hmem entry he)
  · exact fun entry he => h.key_ne entry (hmem entry he)

/-- A request that is not to store an object under an empty key leaves the store sound. -/
theorem Sound.perform {s : Store} (h : s.Sound) {request : Request} (hk : request.storedKey? ≠ some "") :
    (s.perform request).2.Sound := by
  have ha := alters_perform request s
  generalize ho : (s.perform request).2.objects = objects at ha
  cases ha with
  | keep => exact h.of_objects ho
  | store object hkey => exact h.of_insert object (fun he => hk (hkey.trans (congrArg some he))) ho
  | remove => exact h.of_erase ho

/-- The exchanges of a run store objects under keys that are not empty, if they store any. -/
theorem Sound.of_runs {xs : List Exchange} {s s' : Store} (h : s.Sound) (hrun : transport.Runs s xs s')
    (hx : ∀ x ∈ xs, x.preliminary = true ∨ ∃ bucket key tag, x.Stores bucket key tag ∧ key ≠ "") : s'.Sound := by
  induction xs generalizing s with
  | nil =>
    obtain rfl : s' = s := hrun
    exact h
  | cons x xs ih =>
    obtain ⟨hx, hxs⟩ := List.forall_mem_cons.1 hx
    obtain ⟨hanswer, hrest⟩ := hrun
    refine ih ?_ hrest hxs
    rcases hx with hx | ⟨bucket, key, tag, hx, hk⟩
    · exact h.of_objects (keeps_perform hx hanswer).objects
    · obtain ⟨⟨object, rfl, rfl, -, ho⟩, -⟩ := perform_of_stores hx hanswer
      exact h.of_insert object hk ho

end Store

theorem key_ne_of_ok {key key' : String} (h : Argument.key key = .ok key') : key' ≠ "" := by
  unfold Argument.key at h
  split at h
  · cases h
  · rename_i hk
    cases h
    rintro rfl
    exact hk rfl

/-- What clients do to the store: they create and delete objects, and make any requests that are not to store an object
under an empty key, which a client refuses. -/
inductive Operation : Observed Store → Observed Store → Prop
  | create (settings : Settings) (partSize : Option Int) (name key : String) (size : Option Int) (source : Source)
      (contentType : Option String) (o : Observed Store) :
      Operation o ((client settings partSize).createObject name key size source contentType o).after
  | delete (settings : Settings) (partSize : Option Int) (name key : String) (o : Observed Store) :
      Operation o ((client settings partSize).deleteObject name key o).2
  | request (request : Request) (hk : request.storedKey? ≠ some "") (o : Observed Store) :
      Operation o (o.perform transport request).2

/-- A creation stores its object under a key that is not empty, if it stores one. -/
theorem preliminary_or_stores_of_creates {partSize : Option Int} {name key : String} {size : Option Int}
    {source : Source} {contentType : Option String} {a : Upload.Account}
    (h : Upload.Creates partSize name key size source contentType a) :
    ∀ x ∈ a.exchanges, x.preliminary = true ∨ ∃ bucket key tag, x.Stores bucket key tag ∧ key ≠ "" := by
  have hp := h.preliminary_or_stores
  cases hr : a.result with
  | error e =>
    rw [hr] at hp
    exact fun x hx => .inl (hp x hx)
  | ok tag =>
    have hk : key ≠ "" := by
      cases h with
      | refused => cases hr
      | single ha => exact key_ne_of_ok ha.key_ok
      | parts ha => exact key_ne_of_ok ha.key_ok
    rw [hr] at hp
    obtain ⟨bucket, xs, x, -, hxs, hpreliminary, hstores⟩ := hp
    rw [hxs]
    intro y hy
    rcases List.mem_append.1 hy with hy | hy
    · exact .inl (hpreliminary y hy)
    · rw [List.mem_singleton.1 hy]
      exact .inr ⟨bucket, key, tag, hstores, hk⟩

/-- An operation leaves the store sound, and its injected failures as they were. -/
theorem Operation.sound {o o' : Observed Store} (h : Operation o o') (hs : o.transport.Sound) :
    o'.transport.Sound ∧ o'.transport.faults = o.transport.faults := by
  cases h with
  | create settings partSize name key size source contentType =>
    have hcreates := (client settings partSize).createObject_creates name key size source contentType o
    generalize (client settings partSize).createObject name key size source contentType o = report at hcreates ⊢
    generalize (client settings partSize).account name key size source contentType o = account at hcreates
    have hrun : transport.Runs o.transport account.exchanges report.after.transport := hcreates.1
    exact ⟨hs.of_runs hrun (preliminary_or_stores_of_creates hcreates.2), faults_of_runs hrun⟩
  | delete settings partSize name key =>
    unfold Client.deleteObject Client.onObject Client.onBucket
    cases Argument.bucket name with
    | error e => exact ⟨hs, rfl⟩
    | ok bucket =>
      cases Argument.key key with
      | error e => exact ⟨hs, rfl⟩
      | ok key => exact ⟨hs.perform nofun, Store.faults_perform _ _⟩
  | request request hk => exact ⟨hs.perform hk, Store.faults_perform _ _⟩

/-- No failure is injected into listings of objects. -/
structure Faults.SparesListings (faults : Faults) : Prop where
  methods : faults.methods.get? Method.listObjects.name = none
  calls : ∀ n, faults.listCalls.get? n = none

namespace Store

/-- The states of the store that operations lead to from an empty one; objects may be put into it and failures injected
at any time. -/
inductive Reached : Store → Prop
  | new (now : Value) : Reached { now := now }
  | operate {o o' : Observed Store} (h : Reached o.transport) (ho : Operation o o') : Reached o'.transport
  | addObject {s : Store} (bucket key : String) (data : ByteArray) (h : Reached s) (hk : key ≠ "") :
      Reached (s.addObject bucket key data)
  | inject {s : Store} (faults : Faults) (h : Reached s) : Reached { s with faults := faults }

theorem Reached.sound {s : Store} (h : s.Reached) : s.Sound := by
  induction h with
  | new => exact ⟨List.nodup_nil, List.forall_mem_nil _, List.forall_mem_nil _⟩
  | operate _ ho ih => exact (ho.sound ih).1
  | addObject bucket key data _ hk ih => exact ih.of_insert ⟨bucket, key, data, payloadTag data, none⟩ hk rfl
  | inject _ _ ih => exact ih.of_objects rfl

/-! ## The pages of a listing -/

/-- There is an object of this bucket and key. -/
def Has (s : Store) (bucket key : String) : Prop :=
  ∃ object ∈ s.objects.values, object.bucket = bucket ∧ object.key = key

/-- What a page of a listing without a delimiter has: the keys of the bucket that start with the stem and come after the
marker, in ascending order, and if it is truncated, not all of them but all before the first one that it leaves out. -/
structure Lists (s : Store) (bucket stem marker : String) (page : Page String ObjectInfo) : Prop where
  ascending : (page.entries.map (·.key)).Pairwise (· < ·)
  listed : ∀ info ∈ page.entries, stem.toList <+: info.key.toList ∧ marker < info.key ∧ s.Has bucket info.key
  complete : ∀ key, s.Has bucket key → stem.toList <+: key.toList → marker < key →
    key ∈ page.entries.map (·.key) ∨ page.truncated = true ∧ ∀ info ∈ page.entries, info.key < key
  entries_ne : page.truncated = true → page.entries ≠ []

theorem not_lt_empty (key : String) : ¬key < "" := by
  intro h
  have h : key.toList < [] := h
  exact List.not_lt_nil _ h

/-- A key behind a marker is not empty. -/
theorem ne_empty_of_lt {marker key : String} (h : marker < key) : key ≠ "" := by
  rintro rfl
  exact not_lt_empty marker h

theorem has_iff_of_objects {s s' : Store} (ho : s'.objects = s.objects) (bucket key : String) :
    s'.Has bucket key ↔ s.Has bucket key := by
  unfold Has
  rw [ho]

section

variable {s : Store} {bucket stem marker key : String}

theorem Sound.ne_of_has (h : s.Sound) (hk : s.Has bucket key) : key ≠ "" := by
  obtain ⟨object, hmem, -, rfl⟩ := hk
  obtain ⟨entry, hentry, rfl⟩ := List.mem_map.1 hmem
  exact h.key_ne entry hentry

theorem mem_listedKeys : key ∈ s.listedKeys bucket marker stem "" ↔
    s.Has bucket key ∧ stem.toList <+: key.toList ∧ marker < key := by
  simp only [listedKeys, List.mem_mergeSort, List.mem_filter, List.mem_map, beq_iff_eq, isListed, Bool.and_eq_true,
    decide_eq_true_eq, List.isPrefixOf_iff_prefix, Has]
  constructor
  · rintro ⟨⟨object, ⟨ho, hb⟩, hk⟩, ⟨hs, hm⟩, -⟩
    exact ⟨⟨object, ho, hb, hk⟩, hs, hm⟩
  · rintro ⟨⟨object, ho, hb, hk⟩, hs, hm⟩
    exact ⟨⟨object, ⟨ho, hb⟩, hk⟩, ⟨hs, hm⟩, rfl⟩

/-- From the empty marker on all keys are listed that start with the stem. -/
theorem Sound.mem_listedKeys_start (h : s.Sound) :
    key ∈ s.listedKeys bucket "" stem "" ↔ s.Has bucket key ∧ stem.toList <+: key.toList := by
  rw [mem_listedKeys, and_congr_right_iff]
  intro hhas
  have hpos : "" < key := Std.lt_of_le_of_ne (String.not_lt.1 (not_lt_empty key)) (h.ne_of_has hhas).symm
  exact and_iff_left hpos

/-- What is known of a stored object is found under its path. -/
theorem Sound.info_eq (h : s.Sound) (hk : s.Has bucket key) :
    ∃ info, s.info bucket key = .ok info ∧ info.key = key := by
  obtain ⟨object, hmem, rfl, rfl⟩ := hk
  obtain ⟨entry, hentry, rfl⟩ := List.mem_map.1 hmem
  have hget : s.objects.get? (objectPath entry.2.bucket entry.2.key) = some entry.2 := by
    rw [← h.path_eq entry hentry]
    exact Dictionary.get?_of_mem h.nodup hentry
  refine ⟨entry.2.info entry.2.key, ?_, rfl⟩
  simp only [info, hget]

theorem Sound.mapM_info (h : s.Sound) {keys : List String} (hk : ∀ key ∈ keys, s.Has bucket key) :
    ∃ infos, keys.mapM (s.info bucket) = .ok infos ∧ infos.map (·.key) = keys ∧
      ∀ info ∈ infos, s.info bucket info.key = .ok info := by
  induction keys with
  | nil => exact ⟨[], rfl, rfl, List.forall_mem_nil _⟩
  | cons key keys ih =>
    obtain ⟨info, hinfo, rfl⟩ := h.info_eq (hk key List.mem_cons_self)
    obtain ⟨infos, hinfos, rfl, hfound⟩ := ih fun key hm => hk key (List.mem_cons_of_mem _ hm)
    refine ⟨info :: infos, ?_, rfl, List.forall_mem_cons.2 ⟨hinfo, hfound⟩⟩
    rw [List.mapM_cons, hinfo, hinfos]
    rfl

/-- Under a delimiter those keys are listed that do not have it behind the stem. -/
theorem mem_listedKeys_iff {delimiter : String} : key ∈ s.listedKeys bucket marker stem delimiter ↔
    key ∈ s.listedKeys bucket marker stem "" ∧
      (delimiter.isEmpty || !occursIn delimiter.toList (key.toList.drop stem.length)) = true := by
  simp only [listedKeys, List.mem_mergeSort, List.mem_filter, isListed, Bool.and_eq_true]
  constructor
  · rintro ⟨hkey, ⟨hstem, hmarker⟩, hdelimiter⟩
    exact ⟨⟨hkey, ⟨hstem, hmarker⟩, rfl⟩, hdelimiter⟩
  · rintro ⟨⟨hkey, ⟨hstem, hmarker⟩, -⟩, hdelimiter⟩
    exact ⟨hkey, ⟨hstem, hmarker⟩, hdelimiter⟩

/-- No key of a bucket is there twice, since its path is there once. -/
theorem Sound.nodup_keys (h : s.Sound) (bucket : String) :
    ((s.objects.values.filter (·.bucket == bucket)).map (·.key)).Nodup := by
  have hpaths : s.objects.entries.Pairwise fun a b => a.1 ≠ b.1 := List.pairwise_map.1 h.nodup
  have hentries : s.objects.entries.Pairwise fun a b =>
      a.2.bucket = bucket → b.2.bucket = bucket → a.2.key ≠ b.2.key := by
    refine hpaths.imp_of_mem fun {a b} ha hb hne hab hbb hk => hne ?_
    rw [h.path_eq a ha, h.path_eq b hb, hab, hbb, hk]
  have hvalues : s.objects.values.Pairwise fun a b => a.bucket = bucket → b.bucket = bucket → a.key ≠ b.key :=
    List.pairwise_map.2 hentries
  refine List.pairwise_map.2 ((hvalues.filter _).imp_of_mem fun ha hb hne => ?_)
  exact hne (beq_iff_eq.1 (List.mem_filter.1 ha).2) (beq_iff_eq.1 (List.mem_filter.1 hb).2)

theorem pairwise_sorted {keys : List String} (h : keys.Nodup) :
    (keys.mergeSort fun a b => !decide (b < a)).Pairwise (· < ·) := by
  have hsorted : (keys.mergeSort fun a b => !decide (b < a)).Pairwise fun a b => (!decide (b < a)) = true := by
    refine List.pairwise_mergeSort ?_ ?_ keys
    · intro a b c hab hbc
      simp only [Bool.not_eq_true', decide_eq_false_iff_not, String.not_lt] at hab hbc ⊢
      exact String.le_trans hab hbc
    · intro a b
      simp only [Bool.or_eq_true, Bool.not_eq_true', decide_eq_false_iff_not, String.not_lt]
      exact String.le_total a b
  have hnodup := (List.mergeSort_perm keys fun a b => !decide (b < a)).nodup_iff.2 h
  refine (hsorted.and hnodup).imp fun {a b} hab => ?_
  simp only [Bool.not_eq_true', decide_eq_false_iff_not, String.not_lt] at hab
  exact Std.lt_of_le_of_ne hab.1 hab.2

theorem Sound.pairwise_listedKeys (h : s.Sound) (bucket marker stem delimiter : String) :
    (s.listedKeys bucket marker stem delimiter).Pairwise (· < ·) :=
  pairwise_sorted ((h.nodup_keys bucket).filter _)

/-- A page shows the first of the listed keys, and is truncated when there are more. -/
theorem Sound.listObjects_eq (h : s.Sound) {maxKeys : Int} (hpos : 1 ≤ maxKeys)
    (bucket marker stem delimiter : String) :
    ∃ infos nextMarker, s.listObjects bucket maxKeys marker stem delimiter =
        .ok ⟨infos, decide (maxKeys < (s.listedKeys bucket marker stem delimiter).length), nextMarker⟩ ∧
      infos.map (·.key) = (s.listedKeys bucket marker stem delimiter).take maxKeys.toNat ∧
      ∀ info ∈ infos, s.info bucket info.key = .ok info := by
  generalize hkeys : s.listedKeys bucket marker stem delimiter = keys
  have htake : takeBefore keys maxKeys = keys.take maxKeys.toNat := by
    rw [takeBefore, clampPosition, if_neg (by omega), ← List.take_eq_take_min]
  have hshown : ∀ key ∈ keys.take maxKeys.toNat, s.Has bucket key := by
    intro key hk
    have hlisted : key ∈ s.listedKeys bucket marker stem delimiter := hkeys ▸ List.mem_of_mem_take hk
    exact (mem_listedKeys.1 (mem_listedKeys_iff.1 hlisted).1).1
  obtain ⟨infos, hinfos, hmap, hfound⟩ := h.mapM_info hshown
  cases hnext : decide (maxKeys < keys.length) && !delimiter.isEmpty with
  | false =>
    refine ⟨infos, "", ?_, hmap, hfound⟩
    simp [listObjects, hkeys, htake, hinfos, hnext, bind, Except.bind, pure, Except.pure]
  | true =>
    -- a truncated page has a last key
    have hne : keys.take maxKeys.toNat ≠ [] := by
      intro hnil
      have hlength := congrArg List.length hnil
      have hlt : maxKeys < keys.length := of_decide_eq_true (Bool.and_eq_true_iff.1 hnext).1
      simp only [List.length_take, List.length_nil] at hlength
      omega
    refine ⟨infos, (keys.take maxKeys.toNat).getLast hne, ?_, hmap, hfound⟩
    have hlast := List.getLast?_eq_some_getLast hne
    simp [listObjects, hkeys, htake, hinfos, hnext, hlast, bind, Except.bind, pure, Except.pure]

/-- A sound store answers a listing without a delimiter. -/
theorem Sound.listObjects_lists (h : s.Sound) {maxKeys : Int} (hpos : 1 ≤ maxKeys) (bucket marker stem : String) :
    ∃ page, s.listObjects bucket maxKeys marker stem "" = .ok page ∧ s.Lists bucket stem marker page := by
  have hsorted := h.pairwise_listedKeys bucket marker stem ""
  have hmem : ∀ key, key ∈ s.listedKeys bucket marker stem "" ↔
      s.Has bucket key ∧ stem.toList <+: key.toList ∧ marker < key := fun _ => mem_listedKeys
  obtain ⟨infos, nextMarker, hpage, hmap, -⟩ := h.listObjects_eq hpos bucket marker stem ""
  refine ⟨_, hpage, ?_⟩
  generalize s.listedKeys bucket marker stem "" = keys at hsorted hmem hmap
  have hshown : ∀ key ∈ keys.take maxKeys.toNat, key ∈ keys := fun key hk => List.mem_of_mem_take hk
  have hlisted : ∀ info ∈ infos, info.key ∈ keys.take maxKeys.toNat := by
    intro info hi
    rw [← hmap]
    exact List.mem_map_of_mem hi
  -- the page shows so many of the keys, and the others follow
  have hsplit := List.take_append_drop maxKeys.toNat keys
  constructor
  · rw [hmap]
    exact hsorted.sublist (List.take_sublist _ _)
  · intro info hi
    obtain ⟨hhas, hstem, hm⟩ := (hmem _).1 (hshown _ (hlisted info hi))
    exact ⟨hstem, hm, hhas⟩
  · intro key hhas hstem hm
    have hk : key ∈ keys := (hmem key).2 ⟨hhas, hstem, hm⟩
    rw [← hsplit, List.mem_append] at hk
    rcases hk with hk | hk
    · exact .inl (by rw [hmap]; exact hk)
    · refine .inr ⟨?_, ?_⟩
      · have hne := List.length_pos_of_mem hk
        rw [List.length_drop] at hne
        exact decide_eq_true (by omega)
      · intro info hi
        rw [← hsplit, List.pairwise_append] at hsorted
        exact hsorted.2.2 _ (hlisted info hi) _ hk
  · intro ht hnil
    have hlt : maxKeys < keys.length := of_decide_eq_true ht
    have hlength : (keys.take maxKeys.toNat).length = 0 := by
      rw [← hmap]
      simp [show infos = [] from hnil]
    rw [List.length_take] at hlength
    omega

/-- The listed keys depend on the objects alone. -/
theorem listedKeys_of_objects {s' : Store} (ho : s'.objects = s.objects) (bucket marker stem delimiter : String) :
    s'.listedKeys bucket marker stem delimiter = s.listedKeys bucket marker stem delimiter := by
  unfold listedKeys
  rw [ho]

theorem info_of_objects {s' : Store} (ho : s'.objects = s.objects) (bucket key : String) :
    s'.info bucket key = s.info bucket key := by
  unfold info
  rw [ho]

/-- The keys that follow a key in a listing are those that are listed from this key on. -/
theorem Sound.listedKeys_of_append (h : s.Sound) {shown rest : List String}
    (hkeys : s.listedKeys bucket marker stem "" = shown ++ key :: rest) :
    s.listedKeys bucket key stem "" = rest := by
  have hsorted := h.pairwise_listedKeys bucket marker stem ""
  rw [hkeys, List.pairwise_append] at hsorted
  obtain ⟨-, htail, hbefore⟩ := hsorted
  obtain ⟨hbehind, hrest⟩ := List.pairwise_cons.1 htail
  have hlisted : ∀ other, other ∈ shown ++ key :: rest ↔
      s.Has bucket other ∧ stem.toList <+: other.toList ∧ marker < other := fun other => hkeys ▸ mem_listedKeys
  have hmarker : marker < key := ((hlisted key).1 (by simp)).2.2
  refine (h.pairwise_listedKeys bucket key stem "").eq_of_mem_iff hrest fun other => ?_
  rw [mem_listedKeys]
  constructor
  · rintro ⟨hhas, hstem, hlt⟩
    have hmem := (hlisted other).2 ⟨hhas, hstem, Std.lt_trans hmarker hlt⟩
    rcases List.mem_append.1 hmem with hmem | hmem
    · exact absurd (hbefore other hmem key List.mem_cons_self) (String.lt_asymm hlt)
    · rcases List.mem_cons.1 hmem with rfl | hmem
      · exact absurd hlt Std.lt_irrefl
      · exact hmem
  · intro hmem
    obtain ⟨hhas, hstem, -⟩ := (hlisted other).1 (by simp [hmem])
    exact ⟨hhas, hstem, hbehind other hmem⟩

/-- What is known of objects is determined by their keys. -/
theorem infos_unique {infos infos' : List ObjectInfo} (hfound : ∀ info ∈ infos, s.info bucket info.key = .ok info)
    (hfound' : ∀ info ∈ infos', s.info bucket info.key = .ok info)
    (hkeys : infos.map (·.key) = infos'.map (·.key)) : infos = infos' := by
  induction infos generalizing infos' with
  | nil => exact (List.map_eq_nil_iff.1 hkeys.symm).symm
  | cons info infos ih =>
    obtain ⟨info', rest, rfl, hkey, hrest⟩ := List.map_eq_cons_iff.1 hkeys.symm
    obtain ⟨hinfo, hinfos⟩ := List.forall_mem_cons.1 hfound
    obtain ⟨hinfo', hinfos'⟩ := List.forall_mem_cons.1 hfound'
    rw [hkey, hinfo] at hinfo'
    rw [Except.ok.inj hinfo', ih hinfos hinfos' hrest.symm]

/-! ## The request for a page -/

/-- Nothing has changed in a store but what it remembers of requests and of sessions. -/
structure Agrees (s s' : Store) : Prop where
  objects : s'.objects = s.objects
  buckets : s'.buckets = s.buckets
  faults : s'.faults = s.faults
  now : s'.now = s.now

theorem Agrees.trans {m s' : Store} (h : s.Agrees m) (h' : m.Agrees s') : s.Agrees s' where
  objects := h'.objects.trans h.objects
  buckets := h'.buckets.trans h.buckets
  faults := h'.faults.trans h.faults
  now := h'.now.trans h.now

theorem pageArguments_some (s : Store) (bucket : String) (maxKeys : Int) (marker stem : String) :
    s.pageArguments bucket (some maxKeys) (some marker) (some stem) = .ok (maxKeys, marker, stem) := rfl

/-- A request for a page is answered with the page, if it is not made to fail. -/
theorem perform_listObjects (hf : s.faults.SparesListings) (bucket : String) (maxKeys : Int)
    (marker stem delimiter : String) :
    ∃ s', s.perform (.listObjects bucket (some maxKeys) (some marker) (some stem) (some delimiter)) =
        (s.listObjects bucket maxKeys marker stem delimiter, s') ∧ s.Agrees s' ∧
      s'.calls = s.calls ++ [.listObjects bucket (some maxKeys) (some marker) (some stem) (some delimiter)] := by
  have hmethod : s.faults.methods.get?
      (Request.listObjects bucket (some maxKeys) (some marker) (some stem) (some delimiter)).method.name = none :=
    hf.methods
  refine ⟨{ s with
    calls := s.calls ++ [.listObjects bucket (some maxKeys) (some marker) (some stem) (some delimiter)]
    listCount := s.listCount + 1 }, ?_, ⟨rfl, rfl, rfl, rfl⟩, rfl⟩
  rw [perform_of_not_fault hmethod]
  simp only [serve, hf.calls, pageArguments_some, Option.getD_some]
  rfl

end

end Store

end Memory

end BucketClient
