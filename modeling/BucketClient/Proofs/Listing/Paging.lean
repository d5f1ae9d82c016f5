import BucketClient.Proofs.Listing.Undisturbed

/-!
# What the listings of a bucket deliver and what they cost

A store in memory whose objects nobody changes meanwhile can be listed in two ways, and whoever drains a listing
(`Walk.Drains`) receives the same.

* `listObjects_pages`: a recursive listing delivers all objects of the stem, whatever the size of a page, and makes one
  request for each page of so many keys, each behind the last key of the page before.
* `listObjects_directory`: a listing that is not recursive makes one request and delivers the first of those objects
  that have no slash behind the stem.
-/

namespace BucketClient

namespace Walk

open Feed

variable {σ μ α : Type}

/-- The walk can be drained, and whoever reads it to its end, while nobody else changes the state, receives these items.
The pages are fetched from these markers, and this state is left. -/
structure Drains (walk : Walk σ μ α) (o : Observed σ) (markers : List μ) (items : List (Item α)) (o' : Observed σ) :
    Prop where
  drain_eq : ∀ moves most, 2 * markers.length + items.length + 2 ≤ moves → items.length < most →
    ∃ f, walk.feed.drain walk.producer moves most o = (items, f, o') ∧ f.closed = true ∧ f.alive = false
  of_complete : ∀ es o₁, Complete walk.producer (.fetching walk.start) o es o₁ →
    fetchedFrom es = markers ∧ received es = items ∧ o₁ = o'

theorem Course.drains {walk : Walk σ μ α} {o o' : Observed σ} {markers : List μ} {items : List (Item α)}
    (h : walk.Course walk.start o markers items o') : walk.Drains o markers items o' where
  drain_eq moves most hmoves hmost := by
    obtain ⟨stages, hb, -, hlength⟩ := brings_of_course h
    obtain ⟨f, hdrain, hw, hc⟩ := drain_of_brings hb (show stages.length + items.length + 2 ≤ moves by omega) hmost
    exact ⟨f, hdrain, hc, alive_eq_false hw⟩
  of_complete es o₁ hes := h.unique (course_of_brings hes.brings)

/-- What a walk delivers is determined by the state in which it begins. -/
theorem Drains.items_eq {walk : Walk σ μ α} {o o₁ o₂ : Observed σ} {markers₁ markers₂ : List μ}
    {items₁ items₂ : List (Item α)} (h₁ : walk.Drains o markers₁ items₁ o₁) (h₂ : walk.Drains o markers₂ items₂ o₂) :
    items₁ = items₂ := by
  let moves := 2 * (markers₁.length + markers₂.length) + items₁.length + items₂.length + 2
  let most := items₁.length + items₂.length + 1
  obtain ⟨f₁, hdrain₁, -⟩ := h₁.drain_eq moves most (by omega) (by omega)
  obtain ⟨f₂, hdrain₂, -⟩ := h₂.drain_eq moves most (by omega) (by omega)
  exact congrArg Prod.fst (hdrain₁.symm.trans hdrain₂)

end Walk

namespace Listing

open Memory Walk

section

variable {bucket stem : String} {o : Observed Store}

/-! ## Recursive listings -/

/-- However large the pages are, a recursive listing delivers the same. -/
theorem exists_drains_walkAll (hs : o.transport.Sound) (hf : o.transport.faults.SparesListings) (bucket stem : String) :
    ∃ infos : List ObjectInfo, infos.map (·.key) = o.transport.listedKeys bucket "" stem "" ∧
      (∀ info ∈ infos, o.transport.info bucket info.key = .ok info) ∧
      ∀ settings : Settings, ∃ markers o', markers = "" :: pageEnds settings.maxKeys.toNat (infos.map (·.key)) ∧
        (walkAll settings bucket stem).Drains o markers (infos.map .value) o' ∧
        Asks settings bucket stem "" markers o o' := by
  have hhas : ∀ key ∈ o.transport.listedKeys bucket "" stem "", o.transport.Has bucket key := fun key hk =>
    (hs.mem_listedKeys_start.1 hk).1
  obtain ⟨infos, -, hkeys, hfound⟩ := hs.mapM_info hhas
  refine ⟨infos, hkeys, hfound, fun settings => ?_⟩
  obtain ⟨markers, infos', o', hcourse, hmarkers, hkeys', hfound', hasks⟩ :=
    exists_course_walkAll settings bucket stem "" hs hf
  obtain rfl : infos' = infos := Store.infos_unique hfound' hfound (hkeys'.trans hkeys.symm)
  exact ⟨markers, o', hmarkers, hcourse.drains, hasks⟩

/-- The number of pages of so many keys: at least one, and no more than it takes. -/
theorem length_pages {size : Nat} (h0 : 0 < size) (marker : String) (keys : List String) :
    (marker :: pageEnds size keys).length = max 1 ((keys.length + size - 1) / size) := by
  rw [List.length_cons, length_pageEnds]
  rcases Nat.eq_zero_or_pos keys.length with hn | hn
  · rw [hn, Nat.zero_sub, Nat.zero_div, Nat.zero_add, Nat.div_eq_of_lt (by omega)]
    rfl
  · have hshift : keys.length + size - 1 = keys.length - 1 + size := by omega
    rw [hshift, Nat.add_div_right _ h0]
    exact (Nat.max_eq_right (Nat.succ_le_succ (Nat.zero_le _))).symm

/-! ## Listings that are not recursive -/

theorem occursIn_singleton (c : Char) (text : List Char) : occursIn [c] text = decide (c ∈ text) := by
  induction text with
  | nil => rfl
  | cons d rest ih =>
    rw [occursIn, ih]
    simp [List.isPrefixOf, Bool.beq_eq_decide_eq]

/-- Under the delimiter of directories those keys are listed that have no slash behind the stem. -/
theorem listedKeys_directory (hs : o.transport.Sound) (marker : String) :
    o.transport.listedKeys bucket marker stem directoryDelimiter =
      (o.transport.listedKeys bucket marker stem "").filter fun key => '/' ∉ key.toList.drop stem.length := by
  refine (hs.pairwise_listedKeys bucket marker stem _).eq_of_mem_iff
    ((hs.pairwise_listedKeys bucket marker stem "").filter _) fun key => ?_
  have hslash : directoryDelimiter.toList = ['/'] := rfl
  have hdelimiter : directoryDelimiter.isEmpty = false := rfl
  rw [Store.mem_listedKeys_iff, List.mem_filter, hslash, hdelimiter, occursIn_singleton]
  simp

/-- A listing that is not recursive asks for one page, which shows the first of the keys without a slash. -/
theorem exists_drains_directory (settings : Settings) (bucket stem : String) {infos : List ObjectInfo}
    (hs : o.transport.Sound) (hf : o.transport.faults.SparesListings)
    (hkeys : infos.map (·.key) = o.transport.listedKeys bucket "" stem "")
    (hfound : ∀ info ∈ infos, o.transport.info bucket info.key = .ok info) :
    ∃ o', (objects transport settings bucket stem false).Drains o [""]
        (((infos.filter fun info => '/' ∉ info.key.toList.drop stem.length).take
          settings.maxKeys.toNat).map .value) o' ∧
      Asks settings bucket stem directoryDelimiter [""] o o' := by
  obtain ⟨shown, nextMarker, hpage, hshown, hfound'⟩ :=
    hs.listObjects_eq settings.maxKeys_pos bucket "" stem directoryDelimiter
  obtain ⟨o', hfetch, hasks⟩ := fetchObjects_of_ok hf hpage
  have hcourse : (objects transport settings bucket stem false).Course "" o [""] (shown.map .value) o' :=
    .last hfetch rfl (.inl rfl)
  have heq : shown =
      (infos.filter fun info => '/' ∉ info.key.toList.drop stem.length).take settings.maxKeys.toNat := by
    refine Store.infos_unique hfound' (fun info hi => ?_) ?_
    · exact hfound info (List.mem_filter.1 (List.mem_of_mem_take hi)).1
    · rw [hshown, listedKeys_directory hs, ← hkeys, List.filter_map, List.map_take]
      rfl
  rw [← heq]
  exact ⟨o', hcourse.drains, hasks⟩

end

/-! ## The listings of a client -/

theorem listObjects_of_bucket {name bucket : String} (settings : Settings) (partSize : Option Int) (stem : String)
    (recursive : Bool) (hb : Argument.bucket name = .ok bucket) :
    (client settings partSize).listObjects name stem recursive =
      .ok (objects transport settings bucket stem recursive) := by
  rw [Client.listObjects, hb]
  rfl

/-- **The pages of a listing.** In every state of the store in which listings are not made to fail, and whatever the
size of a page is, a recursive listing of a bucket can be drained. It delivers what is known of each object of the
bucket whose key starts with the stem, once and in ascending order of the keys, and nothing else. It makes one request
for each page that the keys take, and one if there are none: the first from the empty marker, and each other one from
the last key of the page before. Nothing else happens, and the counter of pages goes up by as many. -/
theorem listObjects_pages {name bucket : String} {o : Observed Store} (stem : String)
    (hb : Argument.bucket name = .ok bucket) (hr : o.transport.Reached) (hf : o.transport.faults.SparesListings) :
    ∃ infos : List ObjectInfo,
      (infos.map (·.key)).Pairwise (· < ·) ∧
      (∀ key, key ∈ infos.map (·.key) ↔ o.transport.Has bucket key ∧ stem.toList <+: key.toList) ∧
      (∀ info ∈ infos, o.transport.info bucket info.key = .ok info) ∧
      ∀ (settings : Settings) (partSize : Option Int), ∃ walk markers o',
        (client settings partSize).listObjects name stem true = .ok walk ∧
        walk.Drains o markers (infos.map .value) o' ∧
        markers.length = max 1 ((infos.length + settings.maxKeys.toNat - 1) / settings.maxKeys.toNat) ∧
        markers[0]? = some "" ∧
        (∀ i, 0 < i → i < markers.length → markers[i]? = (infos.map (·.key))[i * settings.maxKeys.toNat - 1]?) ∧
        o'.transport.calls = o.transport.calls ++ markers.map (pageRequest settings bucket stem "") ∧
        o'.transport.objects = o.transport.objects ∧ o'.journal = o.journal ∧
        o.Tallies settings.counts o' (Counter.raise (.pages .objects) markers.length) := by
  have hs := hr.sound
  obtain ⟨infos, hkeys, hfound, hall⟩ := exists_drains_walkAll hs hf bucket stem
  refine ⟨infos, ?_, ?_, hfound, fun settings partSize => ?_⟩
  · rw [hkeys]
    exact hs.pairwise_listedKeys bucket "" stem ""
  · intro key
    rw [hkeys]
    exact hs.mem_listedKeys_start
  · obtain ⟨markers, o', rfl, hdrains, hagrees, hcalls, hjournal, htallies⟩ := hall settings
    have hpos : 0 < settings.maxKeys.toNat := by
      have hmin := settings.maxKeys_pos
      omega
    refine ⟨_, _, o', listObjects_of_bucket settings partSize stem true hb, hdrains, ?_, rfl, fun i h0 hi => ?_, hcalls,
      hagrees.objects, hjournal, htallies⟩
    · rw [length_pages hpos, List.length_map]
    · obtain ⟨j, rfl⟩ := Nat.exists_eq_add_one_of_ne_zero (Nat.ne_of_gt h0)
      rw [List.length_cons, length_pageEnds] at hi
      rw [List.getElem?_cons_succ]
      exact getElem?_pageEnds hpos (by omega)

/-- A store of three objects, one of them in a directory. -/
def threeObjects : Store :=
  ((({} : Store).addObject "b" "a" .empty).addObject "b" "b/c" .empty).addObject "b" "d" .empty

theorem reached_threeObjects : threeObjects.Reached :=
  .addObject _ _ _ (.addObject _ _ _ (.addObject _ _ _ (.new .null) (by decide)) (by decide)) (by decide)

theorem sparesListings_threeObjects : threeObjects.faults.SparesListings := ⟨rfl, fun _ => rfl⟩

theorem has_threeObjects (key : String) : threeObjects.Has "b" key ↔ key ∈ ["a", "b/c", "d"] := by
  have hvalues : threeObjects.objects.values.map (fun object => (object.bucket, object.key)) =
      [("b", "a"), ("b", "b/c"), ("b", "d")] := by decide
  have hmem : threeObjects.Has "b" key ↔
      ("b", key) ∈ threeObjects.objects.values.map fun object => (object.bucket, object.key) := by
    simp [Store.Has]
  rw [hmem, hvalues]
  simp

/-- Three objects are listed on two pages of two keys, the second one behind the second key. -/
theorem listObjects_pages_of_three :
    let settings : Settings := { listMaxKeys := .int 2, maxKeys := 2 }
    ∃ (walk : Walk Store String ObjectInfo) (infos : List ObjectInfo) (o' : Observed Store),
      (client settings none).listObjects " b " "" true = .ok walk ∧
      walk.Drains ⟨threeObjects, [], {}⟩ ["", "b/c"] (infos.map .value) o' ∧
      infos.map (·.key) = ["a", "b/c", "d"] ∧
      o'.transport.calls = [pageRequest settings "b" "" "" "", pageRequest settings "b" "" "" "b/c"] ∧
      o'.metrics.count (.pages .objects) = 2 := by
  intro settings
  have hb : Argument.bucket " b " = .ok "b" := rfl
  obtain ⟨infos, hsorted, hmem, -, hall⟩ := listObjects_pages (o := ⟨threeObjects, [], {}⟩) "" hb reached_threeObjects
    sparesListings_threeObjects
  have hkeys : infos.map (·.key) = ["a", "b/c", "d"] := by
    refine hsorted.eq_of_mem_iff (by decide) fun key => ?_
    rw [hmem, has_threeObjects]
    simp
  have hcount : infos.length = 3 := by simpa using congrArg List.length hkeys
  obtain ⟨walk, markers, o', hwalk, hdrains, hlength, hfirst, hmarker, hcalls, -, -, htallies⟩ := hall settings none
  have hsize : settings.maxKeys.toNat = 2 := rfl
  rw [hcount, hsize] at hlength
  obtain ⟨first, second, rfl⟩ := List.length_eq_two.1 (hlength.trans (by decide))
  have hsecond := hmarker 1 (by simp) (by simp)
  rw [hkeys, hsize] at hsecond
  obtain rfl : first = "" := Option.some.inj hfirst
  obtain rfl : second = "b/c" := Option.some.inj hsecond
  exact ⟨walk, infos, o', hwalk, hdrains, hkeys, hcalls, htallies (.pages .objects)⟩

/-- **Both ways to list a bucket agree.** In every state of the store in which listings are not made to fail, a listing
that is not recursive delivers what a recursive one delivers, without the entries whose keys have a slash behind the
stem, and of these the first ones, as many as there are on a page. It makes a single request. This holds also when other
requests are made in between that leave the objects as they are. -/
theorem listObjects_directory {name bucket : String} {o : Observed Store} (stem : String)
    (hb : Argument.bucket name = .ok bucket) (hr : o.transport.Reached) (hf : o.transport.faults.SparesListings) :
    ∃ infos : List ObjectInfo, ∀ (settings : Settings) (partSize : Option Int), ∃ deep shallow,
      (client settings partSize).listObjects name stem true = .ok deep ∧
      (client settings partSize).listObjects name stem false = .ok shallow ∧
      (∃ markers o', deep.Drains o markers (infos.map .value) o') ∧
      ∀ o₁ : Observed Store, o₁.transport.objects = o.transport.objects → o₁.transport.faults.SparesListings →
        ∃ o', shallow.Drains o₁ [""] (((infos.filter fun info => '/' ∉ info.key.toList.drop stem.length).take
            settings.maxKeys.toNat).map .value) o' ∧
          o'.transport.calls = o₁.transport.calls ++ [pageRequest settings bucket stem "/" ""] ∧
          o'.transport.objects = o.transport.objects ∧ o'.journal = o₁.journal ∧
          o₁.Tallies settings.counts o' (Counter.raise (.pages .objects) 1) := by
  have hs := hr.sound
  obtain ⟨infos, hkeys, hfound, hall⟩ := exists_drains_walkAll hs hf bucket stem
  refine ⟨infos, fun settings partSize => ?_⟩
  obtain ⟨markers, o', -, hdrains, -⟩ := hall settings
  have hdeep := listObjects_of_bucket settings partSize stem true hb
  have hshallow := listObjects_of_bucket settings partSize stem false hb
  refine ⟨_, _, hdeep, hshallow, ⟨markers, o', hdrains⟩, fun o₁ hobjects hf₁ => ?_⟩
  rw [← Store.listedKeys_of_objects hobjects] at hkeys
  have hfound₁ : ∀ info ∈ infos, o₁.transport.info bucket info.key = .ok info := by
    intro info hi
    rw [Store.info_of_objects hobjects]
    exact hfound info hi
  obtain ⟨o₂, hdrains₂, hagrees, hcalls, hjournal, htallies⟩ :=
    exists_drains_directory settings bucket stem (hs.of_objects hobjects) hf₁ hkeys hfound₁
  exact ⟨o₂, hdrains₂, hcalls, hagrees.objects.trans hobjects, hjournal, htallies⟩

/-- A page of two keys shows the first and the third one, since the second one is in a directory. -/
theorem listObjects_directory_of_three :
    let settings : Settings := { listMaxKeys := .int 2, maxKeys := 2 }
    ∃ (deep shallow : Walk Store String ObjectInfo) (infos shown : List ObjectInfo) (markers : List String)
      (o₁ o₂ : Observed Store),
      (client settings none).listObjects " b " "" true = .ok deep ∧
      (client settings none).listObjects " b " "" false = .ok shallow ∧
      deep.Drains ⟨threeObjects, [], {}⟩ markers (infos.map .value) o₁ ∧
      infos.map (·.key) = ["a", "b/c", "d"] ∧
      shallow.Drains ⟨threeObjects, [], {}⟩ [""] (shown.map .value) o₂ ∧ shown.map (·.key) = ["a", "d"] ∧
      o₂.transport.calls = [pageRequest settings "b" "" "/" ""] := by
  intro settings
  let o : Observed Store := ⟨threeObjects, [], {}⟩
  have hb : Argument.bucket " b " = .ok "b" := rfl
  obtain ⟨infos, hall⟩ := listObjects_directory (o := o) "" hb reached_threeObjects sparesListings_threeObjects
  obtain ⟨deep, shallow, hdeep, hshallow, ⟨markers, o₁, hdrains⟩, hagree⟩ := hall settings none
  obtain ⟨o₂, hdrains₂, hcalls, -⟩ := hagree o rfl sparesListings_threeObjects
  -- the recursive listing delivers the three keys
  have hs := reached_threeObjects.sound
  obtain ⟨infos', hkeys, -, hall'⟩ := exists_drains_walkAll (o := o) hs sparesListings_threeObjects "b" ""
  obtain ⟨_, _, -, hdrains', -⟩ := hall' settings
  cases hdeep
  have hsame : infos' = infos := List.map_inj_right (fun _ _ h => Item.value.inj h) |>.1 (hdrains'.items_eq hdrains)
  have hthree : infos.map (·.key) = ["a", "b/c", "d"] := by
    rw [← hsame, hkeys]
    refine (hs.pairwise_listedKeys "b" "" "" "").eq_of_mem_iff (by decide) fun key => ?_
    rw [hs.mem_listedKeys_start, has_threeObjects]
    simp
  refine ⟨_, shallow, infos, _, markers, o₁, o₂, rfl, hshallow, hdrains, hthree, hdrains₂, ?_, hcalls⟩
  have hshown := congrArg (fun keys => (keys.filter fun key => '/' ∉ key.toList.drop 0).take 2) hthree
  simp only [List.filter_map, List.map_take] at hshown ⊢
  exact hshown.trans (by decide)

end Listing

end BucketClient
