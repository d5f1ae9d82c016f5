import BucketClient.Proofs.Listing.Course
import BucketClient.Proofs.Memory.Listed
import BucketClient.Proofs.Tally

/-!
# Listings of a store that nobody else changes

When nobody changes the store in memory meanwhile, a recursive listing delivers what is known of the objects of the
bucket whose keys start with the stem, in ascending order of the keys and however many pages it takes
(`exists_course_walkAll`). The induction is on the keys that are still to be listed: a truncated page shows the first
of them, and those behind it are the keys that are listed from its last one on. So the pages are asked for behind the
last key of each full page (`pageEnds`), and nothing else is asked for (`Asks`). The buckets are listed on one page
(`exists_course_buckets`).
-/

namespace BucketClient.Listing

open Memory Walk

/-- The walk through all objects of a bucket of the store whose keys start with a stem. -/
abbrev walkAll (settings : Settings) (bucket stem : String) : Walk Store String ObjectInfo :=
  objects transport settings bucket stem true

/-! ## The requests of a listing -/

/-- The request for the page behind a marker. -/
def pageRequest (settings : Settings) (bucket stem delimiter marker : String) : Request :=
  .listObjects bucket (some settings.maxKeys) (some marker) (some stem) (some delimiter)

/-- From the first state to the second a listing has asked for the pages behind these markers, and nothing else has
happened. -/
structure Asks (settings : Settings) (bucket stem delimiter : String) (markers : List String) (o o' : Observed Store) :
    Prop where
  agrees : o.transport.Agrees o'.transport
  calls_eq : o'.transport.calls = o.transport.calls ++ markers.map (pageRequest settings bucket stem delimiter)
  journal_eq : o'.journal = o.journal
  tallies : o.Tallies settings.counts o' (Counter.raise (.pages .objects) markers.length)

section

variable {settings : Settings} {bucket stem delimiter marker : String} {markers markers' : List String}
  {o o₁ o' : Observed Store}

theorem Asks.trans (h : Asks settings bucket stem delimiter markers o o₁)
    (h' : Asks settings bucket stem delimiter markers' o₁ o') :
    Asks settings bucket stem delimiter (markers ++ markers') o o' where
  agrees := h.agrees.trans h'.agrees
  calls_eq := by rw [h'.calls_eq, h.calls_eq, List.map_append, List.append_assoc]
  journal_eq := h'.journal_eq.trans h.journal_eq
  tallies := (h.tallies.trans h'.tallies).congr fun counter => by
    rw [List.length_append, Counter.raise_add]

/-- A listing fetches a page of the store. -/
theorem fetchObjects_of_ok {page : Page String ObjectInfo} (hf : o.transport.faults.SparesListings)
    (hpage : o.transport.listObjects bucket settings.maxKeys marker stem delimiter = .ok page) :
    ∃ o', fetchObjects transport settings bucket stem marker delimiter o =
        (.ok ⟨page.entries.map some, page.truncated, page.nextMarker⟩, o') ∧
      Asks settings bucket stem delimiter [marker] o o' := by
  obtain ⟨s', hperform, hsame, hcalls⟩ := Store.perform_listObjects hf bucket settings.maxKeys marker stem delimiter
  rw [hpage] at hperform
  have hanswer : o.perform transport
      (.listObjects bucket (some settings.maxKeys) (some marker) (some stem) (some delimiter)) =
        (.ok page, { o with transport := s' }) := Observed.perform_eq hperform
  refine ⟨countPage settings .objects { o with transport := s' }, by rw [fetchObjects, hanswer], ?_, ?_, ?_, ?_⟩
  · rwa [countPage, Observed.transport_count]
  · rw [countPage, Observed.transport_count]
    exact hcalls
  · rw [countPage, Observed.journal_count]
  · exact (Observed.tallies_count settings.counts (.pages .objects) 1 { o with transport := s' }).congr_metrics rfl rfl

theorem fetch_of_ok {page : Page String ObjectInfo} (hf : o.transport.faults.SparesListings)
    (hpage : o.transport.listObjects bucket settings.maxKeys marker stem "" = .ok page) :
    ∃ o', (walkAll settings bucket stem).fetch marker (walkAll settings bucket stem).delimiter o =
        (.ok ⟨page.entries.map some, page.truncated, page.nextMarker⟩, o') ∧
      Asks settings bucket stem "" [marker] o o' :=
  fetchObjects_of_ok hf hpage

end

/-- A listing goes on from the key of the last entry. -/
theorem continuation_walkAll (settings : Settings) (bucket stem : String) (init : List ObjectInfo) (last : ObjectInfo)
    (page : Page String (Option ObjectInfo)) :
    (walkAll settings bucket stem).continuation (init ++ [last]) page = .ok last.key := by
  simp [continuation, objects, pages]

theorem isBlank_walkAll {key : String} (settings : Settings) (bucket stem : String) (h : key ≠ "") :
    (walkAll settings bucket stem).isBlank key = false := by
  simpa [objects, pages] using h

/-! ## The pages of a listing -/

/-- The last key of each page of so many keys but the last page. -/
def pageEnds (size : Nat) (keys : List String) : List String :=
  (List.range ((keys.length - 1) / size)).map fun i => keys.getD ((i + 1) * size - 1) ""

theorem length_pageEnds (size : Nat) (keys : List String) : (pageEnds size keys).length = (keys.length - 1) / size := by
  simp [pageEnds]

theorem getElem?_pageEnds {size i : Nat} {keys : List String} (h0 : 0 < size) (hi : i < (keys.length - 1) / size) :
    (pageEnds size keys)[i]? = keys[(i + 1) * size - 1]? := by
  have hle : (i + 1) * size ≤ keys.length - 1 := (Nat.le_div_iff_mul_le h0).1 hi
  have hlt : (i + 1) * size - 1 < keys.length := by
    have hpos : 0 < (i + 1) * size := Nat.mul_pos (Nat.succ_pos i) h0
    omega
  simp [pageEnds, hi, List.getElem?_eq_getElem hlt]

theorem pageEnds_of_length_le {size : Nat} {keys : List String} (h0 : 0 < size) (h : keys.length ≤ size) :
    pageEnds size keys = [] := by
  rw [pageEnds, Nat.div_eq_of_lt (by omega)]
  rfl

/-- Behind a full page the other pages follow. -/
theorem pageEnds_append {size : Nat} {shown rest : List String} {last : String} (hlength : shown.length + 1 = size)
    (hrest : rest ≠ []) : pageEnds size (shown ++ last :: rest) = last :: pageEnds size rest := by
  have hpos : 0 < rest.length := List.length_pos_iff.2 hrest
  have hcount : ((shown ++ last :: rest).length - 1) / size = (rest.length - 1) / size + 1 := by
    rw [List.length_append, List.length_cons, ← Nat.add_div_right _ (by omega)]
    congr 1
    omega
  rw [pageEnds, hcount, List.range_succ_eq_map, List.map_cons, List.map_map, pageEnds]
  refine congrArg₂ List.cons ?_ (List.map_congr_left fun i _ => ?_)
  · have hindex : size - 1 = shown.length := by omega
    simp [hindex]
  · have hindex : (i.succ + 1) * size - 1 = shown.length + ((i + 1) * size - 1 + 1) := by
      rw [Nat.add_mul i.succ, Nat.succ_eq_add_one]
      have hfull : 0 < (i + 1) * size := Nat.mul_pos (Nat.succ_pos i) (by omega)
      omega
    simp [hindex, List.getElem?_append_right]

/-- The page of a listing that is truncated shows the first of the keys, and those behind its last one follow. -/
theorem exists_last_of_truncated {maxKeys : Int} {keys : List String} {infos : List ObjectInfo} (h0 : 1 ≤ maxKeys)
    (ht : maxKeys < keys.length) (hkeys : infos.map (·.key) = keys.take maxKeys.toNat) :
    ∃ init last rest, infos = init ++ [last] ∧ keys = init.map (·.key) ++ last.key :: rest ∧
      init.length + 1 = maxKeys.toNat ∧ rest ≠ [] := by
  have hlength := congrArg List.length hkeys
  simp only [List.length_map, List.length_take] at hlength
  have hne : infos ≠ [] := by
    rintro rfl
    simp only [List.length_nil] at hlength
    omega
  have hinfos := List.dropLast_concat_getLast hne
  refine ⟨infos.dropLast, infos.getLast hne, keys.drop maxKeys.toNat, hinfos.symm, ?_, ?_, ?_⟩
  · have hsplit := List.take_append_drop maxKeys.toNat keys
    rw [← hkeys, ← hinfos] at hsplit
    simpa using hsplit.symm
  · rw [List.length_dropLast]
    omega
  · rw [ne_eq, List.drop_eq_nil_iff]
    omega

/-- **A listing of a store that nobody else changes** delivers what is known of the listed objects, and asks for a page
behind its marker and behind the last key of each full page. -/
theorem exists_course_walkAll (settings : Settings) (bucket stem marker : String) {o : Observed Store}
    (hs : o.transport.Sound) (hf : o.transport.faults.SparesListings) :
    ∃ (markers : List String) (infos : List ObjectInfo) (o' : Observed Store),
      (walkAll settings bucket stem).Course marker o markers (infos.map .value) o' ∧
      markers = marker :: pageEnds settings.maxKeys.toNat (infos.map (·.key)) ∧
      infos.map (·.key) = o.transport.listedKeys bucket marker stem "" ∧
      (∀ info ∈ infos, o.transport.info bucket info.key = .ok info) ∧
      Asks settings bucket stem "" markers o o' := by
  have hpos := settings.maxKeys_pos
  induction hn : (o.transport.listedKeys bucket marker stem "").length using Nat.strongRecOn
    generalizing marker o with
  | ind n ih =>
    obtain ⟨infos, nextMarker, hpage, hkeys, hfound⟩ := hs.listObjects_eq hpos bucket marker stem ""
    obtain ⟨o₁, hfetch, hasks⟩ := fetch_of_ok hf hpage
    have hsame := hasks.agrees
    by_cases ht : settings.maxKeys < (o.transport.listedKeys bucket marker stem "").length
    · obtain ⟨init, last, rest, rfl, hsplit, hfull, hne⟩ := exists_last_of_truncated hpos ht hkeys
      have hrest : o₁.transport.listedKeys bucket last.key stem "" = rest := by
        rw [Store.listedKeys_of_objects hsame.objects]
        exact hs.listedKeys_of_append hsplit
      have hshorter : rest.length < n := by
        rw [← hn, hsplit, List.length_append, List.length_cons]
        omega
      obtain ⟨markers, more, o', hcourse, rfl, hmore, hfound', hasks'⟩ :=
        ih rest.length hshorter last.key (hs.of_objects hsame.objects) (by rwa [hsame.faults])
          (congrArg List.length hrest)
      have hlisted : last.key ∈ o.transport.listedKeys bucket marker stem "" := by simp [hsplit]
      have hlast : last.key ≠ "" := Store.ne_empty_of_lt (Store.mem_listedKeys.1 hlisted).2.2
      have hkeys' : (init ++ [last] ++ more).map (·.key) = init.map (·.key) ++ last.key :: rest := by
        simp [hmore, hrest]
      rw [hrest] at hmore
      refine ⟨_, init ++ [last] ++ more, o', ?_, ?_, hkeys'.trans hsplit.symm, ?_, hasks.trans hasks'⟩
      · rw [List.map_append]
        exact .more hfetch rfl rfl (decide_eq_true ht) (continuation_walkAll ..) (isBlank_walkAll _ _ _ hlast) hcourse
      · rw [hkeys', pageEnds_append (by simpa using hfull) hne, hmore]
        rfl
      · refine List.forall_mem_append.2 ⟨hfound, fun info hi => ?_⟩
        rw [← Store.info_of_objects hsame.objects]
        exact hfound' info hi
    · have hall : infos.map (·.key) = o.transport.listedKeys bucket marker stem "" := by
        rw [hkeys]
        exact List.take_of_length_le (by omega)
      refine ⟨[marker], infos, o₁, .last hfetch rfl (.inr (decide_eq_false ht)), ?_, hall, hfound, hasks⟩
      rw [hall, pageEnds_of_length_le (by omega) (by omega)]

/-- The buckets are listed at once. -/
theorem exists_course_buckets (settings : Settings) {o : Observed Store} (hf : o.transport.faults = {}) :
    ∃ o', (buckets transport settings).Course () o [()] (o.transport.listBuckets.map .value) o' ∧
      o.transport.Agrees o'.transport := by
  obtain ⟨s', hperform, hsame⟩ :
      ∃ s', o.transport.perform .listBuckets = (.ok o.transport.listBuckets, s') ∧ o.transport.Agrees s' :=
    ⟨_, Store.perform_of_faultless hf _, rfl, rfl, rfl, rfl⟩
  have hanswer : o.perform transport .listBuckets = (.ok o.transport.listBuckets, { o with transport := s' }) :=
    Observed.perform_eq hperform
  have hfetch : (buckets transport settings).fetch () (buckets transport settings).delimiter o =
      (.ok ⟨o.transport.listBuckets.map some, false, ()⟩,
        countPage settings .buckets { o with transport := s' }) := by
    simp only [buckets, whole, fetchBuckets, hanswer]
    rfl
  refine ⟨_, .last hfetch rfl (.inl rfl), ?_⟩
  rwa [countPage, Observed.transport_count]

end BucketClient.Listing
