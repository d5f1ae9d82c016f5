import BucketClient.Proofs.Feed.Closing
import BucketClient.Proofs.Listing.Undisturbed

/-!
# Listings while the store changes

A recursive listing of the store in memory fetches its pages one after the other, at times that depend on its consumer,
and in between clients create and delete objects. All the same no key is delivered twice, and none is missed that is
there all the time (`keys_under_change`). The fetch of a page is one step of the listing, so the store changes before it
or after it, but not while the page is put together.

The invariant (`Tracks`) says how far the listing has come (`Position`): while it is about to fetch from a marker, no
handed key is above the marker, and all lasting keys up to the marker have been handed over; while it hands over a page,
each lasting key has been handed over, is left of the page, or is behind the last key of a truncated page. A change of
the store takes nothing from that, since it only makes fewer keys lasting.
-/

namespace BucketClient.Listing

open Memory Feed Walk

/-- What happens at a listing of objects. -/
abbrev ListingEvent : Type :=
  Event Store (Stage String ObjectInfo) ObjectInfo

section

variable {bucket stem key : String} {settings : Settings} {o o₁ o' : Observed Store} {es : List ListingEvent}
  {e : ListingEvent}

/-- A bucket has had an object of this key from the beginning on, and after each change by others. -/
def Lasts (bucket key : String) (o : Observed Store) (es : List ListingEvent) : Prop :=
  o.transport.Has bucket key ∧ ∀ o₁, Event.disturbed o₁ ∈ es → o₁.transport.Has bucket key

/-- The entry is on a page that was fetched when the bucket had an object of its key. -/
def OnPage (bucket : String) (es : List ListingEvent) (info : ObjectInfo) : Prop :=
  ∃ o₁ marker page, Event.worked o₁ (.fetching marker) (.emitting page.entries page) ∈ es ∧
    some info ∈ page.entries ∧ o₁.transport.Has bucket info.key

theorem Lasts.of_append (h : Lasts bucket key o (es ++ [e])) : Lasts bucket key o es :=
  ⟨h.1, fun o₁ hm => h.2 o₁ (List.mem_append_left _ hm)⟩

theorem OnPage.append {info : ObjectInfo} (h : OnPage bucket es info) : OnPage bucket (es ++ [e]) info := by
  obtain ⟨o₁, marker, page, hm, hi, hh⟩ := h
  exact ⟨o₁, marker, page, List.mem_append_left _ hm, hi, hh⟩

/-! ## Fetching a page -/

/-- What a listing makes of a page of the store. -/
theorem fetchPage_of_ok {marker : String} {page : Page String ObjectInfo} (hf : o.transport.faults.SparesListings)
    (hpage : o.transport.listObjects bucket settings.maxKeys marker stem "" = .ok page) :
    ∃ o', (walkAll settings bucket stem).fetchPage marker o =
        (.emitting (page.entries.map some) ⟨page.entries.map some, page.truncated, page.nextMarker⟩, o') ∧
      o'.transport.objects = o.transport.objects ∧ o'.transport.faults = o.transport.faults := by
  obtain ⟨o', hfetch, hasks⟩ := fetch_of_ok hf hpage
  exact ⟨o', by simp only [fetchPage, hfetch], hasks.agrees.objects, hasks.agrees.faults⟩

/-! ## How far a listing has come -/

/-- How far a listing has come that has handed over these entries and has still these of the page. -/
inductive Position (lasting : String → Prop) (handed : List ObjectInfo) :
    List ObjectInfo → Worker (Stage String ObjectInfo) → Prop
  | fetching {marker : String} (hle : ∀ info ∈ handed, info.key ≤ marker)
      (hc : ∀ key, lasting key → key ≤ marker → key ∈ handed.map (·.key)) :
      Position lasting handed [] (.running (.fetching marker))
  | emitting {left : List ObjectInfo} {page : Page String (Option ObjectInfo)} (before shown : List ObjectInfo)
      (hh : handed = before ++ shown) (hp : page.entries = (shown ++ left).map some)
      (hne : page.truncated = true → page.entries ≠ [])
      (hc : ∀ key, lasting key → key ∈ (handed ++ left).map (·.key) ∨
        page.truncated = true ∧ ∀ info ∈ shown ++ left, info.key < key) :
      Position lasting handed left (.running (.emitting (left.map some) page))
  | done {worker : Worker (Stage String ObjectInfo)} (hw : Over worker)
      (hc : ∀ key, lasting key → key ∈ handed.map (·.key)) : Position lasting handed [] worker

namespace Position

variable {lasting lasting' : String → Prop} {handed left : List ObjectInfo}
  {worker : Worker (Stage String ObjectInfo)} {stage : Stage String ObjectInfo}

/-- Fewer keys may be lasting. -/
theorem mono (h : Position lasting handed left worker) (hl : ∀ key, lasting' key → lasting key) :
    Position lasting' handed left worker := by
  cases h with
  | fetching hle hc => exact .fetching hle fun key hk => hc key (hl key hk)
  | emitting before shown hh hp hne hc => exact .emitting before shown hh hp hne fun key hk => hc key (hl key hk)
  | done hw hc => exact .done hw fun key hk => hc key (hl key hk)

theorem of_offer {item : Item ObjectInfo} {next : Bool → Stage String ObjectInfo}
    (h : Position lasting handed left (.running stage))
    (hp : (walkAll settings bucket stem).producer stage = .offer item next) :
    ∃ info rest, left = info :: rest ∧ item = .value info ∧
      Position lasting (handed ++ [info]) rest (.running (next true)) := by
  cases h with
  | fetching => cases hp
  | done hw => cases hw; cases hp
  | @emitting left page before shown hh hentries hne hc =>
    cases left with
    | nil => cases hp
    | cons info rest =>
      cases hp
      refine ⟨info, rest, rfl, rfl, .emitting before (shown ++ [info]) ?_ ?_ hne ?_⟩
      · rw [hh, List.append_assoc]
      · simpa using hentries
      · simpa using hc

theorem not_fail {error : Failure} (h : Position lasting handed left (.running stage)) :
    (walkAll settings bucket stem).producer stage ≠ .fail error := by
  intro hp
  cases h with
  | fetching => cases hp
  | done hw => cases hw; cases hp
  | @emitting left => cases left <;> cases hp

theorem of_finish (h : Position lasting handed left (.running stage))
    (hp : (walkAll settings bucket stem).producer stage = .finish) :
    left = [] ∧ Position lasting handed [] .finishing := by
  cases h with
  | fetching => cases hp
  | done hw hc => exact ⟨rfl, .done .finishing hc⟩
  | @emitting left => cases left <;> cases hp

theorem of_work {run : Observed Store → Stage String ObjectInfo × Observed Store}
    (h : Position lasting handed left (.running stage))
    (hp : (walkAll settings bucket stem).producer stage = .work run) :
    left = [] ∧
      ((∃ marker, stage = .fetching marker ∧ run = (walkAll settings bucket stem).fetchPage marker ∧
        (∀ info ∈ handed, info.key ≤ marker) ∧ ∀ key, lasting key → key ≤ marker → key ∈ handed.map (·.key)) ∨
      ∃ page before shown, stage = .emitting [] page ∧
        run = (fun o => ((walkAll settings bucket stem).afterPage page, o)) ∧
        handed = before ++ shown ∧ page.entries = shown.map some ∧ (page.truncated = true → page.entries ≠ []) ∧
        ∀ key, lasting key → key ∈ handed.map (·.key) ∨
          page.truncated = true ∧ ∀ info ∈ shown, info.key < key) := by
  cases h with
  | @fetching marker hle hc =>
    cases hp
    exact ⟨rfl, .inl ⟨marker, rfl, rfl, hle, hc⟩⟩
  | done hw => cases hw; cases hp
  | @emitting left page before shown hh hentries hne hc =>
    cases left with
    | cons info rest => cases hp
    | nil =>
      cases hp
      rw [List.append_nil] at hentries hc
      exact ⟨rfl, .inr ⟨page, before, shown, rfl, rfl, hh, hentries, hne, by simpa using hc⟩⟩

/-- A page has been fetched behind all that was handed over. -/
theorem of_lists {s : Store} {marker : String} {page : Page String ObjectInfo}
    (hc : ∀ key, lasting key → key ≤ marker → key ∈ handed.map (·.key))
    (hkept : ∀ key, lasting key → s.Has bucket key ∧ stem.toList <+: key.toList)
    (hlists : s.Lists bucket stem marker page) :
    Position lasting handed page.entries
      (.running (.emitting (page.entries.map some) ⟨page.entries.map some, page.truncated, page.nextMarker⟩)) := by
  refine .emitting handed [] (List.append_nil _).symm rfl (fun ht => ?_) fun key hk => ?_
  · simpa using hlists.entries_ne ht
  · rw [List.map_append, List.mem_append]
    by_cases hm : marker < key
    · obtain ⟨hhas, hstem⟩ := hkept key hk
      exact (hlists.complete key hhas hstem hm).imp .inr id
    · exact .inl (.inl (hc key hk (String.not_lt.1 hm)))

/-- What was handed over before a page and the entries of the page are ascending together. -/
theorem pairwise_of_lists {s : Store} {marker : String} {page : Page String ObjectInfo}
    (hle : ∀ info ∈ handed, info.key ≤ marker) (hsorted : (handed.map (·.key)).Pairwise (· < ·))
    (hlists : s.Lists bucket stem marker page) : ((handed ++ page.entries).map (·.key)).Pairwise (· < ·) := by
  rw [List.map_append, List.pairwise_append]
  refine ⟨hsorted, hlists.ascending, fun a ha b hb => ?_⟩
  obtain ⟨first, hfirst, rfl⟩ := List.mem_map.1 ha
  obtain ⟨second, hsecond, rfl⟩ := List.mem_map.1 hb
  exact Std.lt_of_le_of_lt (hle first hfirst) (hlists.listed second hsecond).2.1

/-- Behind a page the listing is over, or goes on from the last key of the page. -/
theorem of_afterPage {before shown : List ObjectInfo} {page : Page String (Option ObjectInfo)}
    (hh : handed = before ++ shown) (hp : page.entries = shown.map some)
    (hne : page.truncated = true → page.entries ≠ [])
    (hc : ∀ key, lasting key → key ∈ handed.map (·.key) ∨ page.truncated = true ∧ ∀ info ∈ shown, info.key < key)
    (hsorted : (handed.map (·.key)).Pairwise (· < ·)) (hkeys : ∀ info ∈ handed, info.key ≠ "") :
    Position lasting handed [] (.running ((walkAll settings bucket stem).afterPage page)) := by
  cases ht : page.truncated with
  | false =>
    rw [afterPage_of_last (.inr ht)]
    refine .done .finished fun key hk => ?_
    rcases hc key hk with hk | ⟨ht', -⟩
    · exact hk
    · rw [ht] at ht'
      cases ht'
  | true =>
    have hshown : shown ≠ [] := by
      rintro rfl
      exact hne ht hp
    obtain ⟨init, last, rfl⟩ : ∃ init last, shown = init ++ [last] :=
      ⟨_, _, (List.dropLast_concat_getLast hshown).symm⟩
    have hlast : last ∈ handed := by simp [hh]
    have hblank := isBlank_walkAll settings bucket stem (hkeys last hlast)
    have hafter : (walkAll settings bucket stem).afterPage page = .fetching last.key := by
      rw [afterPage_of_truncated hp rfl ht, continuation_walkAll]
      exact if_neg (by simp [hblank])
    rw [hafter]
    refine .fetching (fun info hi => ?_) fun key hk hle => ?_
    · rw [hh, ← List.append_assoc] at hi hsorted
      rw [List.map_append, List.pairwise_append] at hsorted
      rcases List.mem_append.1 hi with hi | hi
      · exact Std.le_of_lt (hsorted.2.2 _ (List.mem_map_of_mem hi) _ (by simp))
      · obtain rfl := List.mem_singleton.1 hi
        exact Std.le_refl _
    · rcases hc key hk with hk | ⟨-, habove⟩
      · exact hk
      · exact absurd (habove last (by simp)) (String.not_lt.2 hle)

end Position

end

/-! ## The invariant -/

/-- What has been handed over at a listing, and what is left of its page. -/
structure Progress (bucket stem : String) (o₀ : Observed Store) (es : List ListingEvent)
    (worker : Worker (Stage String ObjectInfo)) (handed left : List ObjectInfo) : Prop where
  handed_eq : emitted es = handed.map .value
  position : Position (fun key => Lasts bucket key o₀ es ∧ stem.toList <+: key.toList) handed left worker
  ascending : ((handed ++ left).map (·.key)).Pairwise (· < ·)
  listed : ∀ info ∈ handed ++ left, info.key ≠ "" ∧ stem.toList <+: info.key.toList ∧ OnPage bucket es info

/-- How a listing that has begun in the state `o₀` stands after these events. -/
structure Tracks (bucket stem : String) (o₀ : Observed Store) (es : List ListingEvent)
    (f : Feed (Stage String ObjectInfo) ObjectInfo) (o : Observed Store) : Prop where
  sound : o.transport.Sound
  spared : o.transport.faults.SparesListings
  has : ∀ key, Lasts bucket key o₀ es → o.transport.Has bucket key
  unfailed : raised es = []
  progress : ∃ handed left, Progress bucket stem o₀ es f.worker handed left

section

variable {bucket stem : String} {settings : Settings} {o₀ o o' : Observed Store} {es : List ListingEvent}
  {e : ListingEvent} {f f' : Feed (Stage String ObjectInfo) ObjectInfo}
  {worker worker' : Worker (Stage String ObjectInfo)} {handed left : List ObjectInfo}

/-- An event with which nothing is handed over. -/
theorem Progress.append (h : Progress bucket stem o₀ es worker handed left) (he : e.emitted? = none)
    (hp : Position (fun key => Lasts bucket key o₀ es ∧ stem.toList <+: key.toList) handed left worker') :
    Progress bucket stem o₀ (es ++ [e]) worker' handed left where
  handed_eq := by
    rw [emitted_append, emitted_cons, he, h.handed_eq]
    exact List.append_nil _
  position := hp.mono fun key hk => ⟨hk.1.of_append, hk.2⟩
  ascending := h.ascending
  listed info hi := by
    obtain ⟨hne, hstem, hpage⟩ := h.listed info hi
    exact ⟨hne, hstem, hpage.append⟩

theorem Tracks.start (settings : Settings) (hs : o.transport.Sound) (hf : o.transport.faults.SparesListings) :
    Tracks bucket stem o [] (walkAll settings bucket stem).feed o := by
  refine ⟨hs, hf, fun key hk => hk.1, rfl, [], [], rfl, ?_, List.Pairwise.nil, List.forall_mem_nil _⟩
  -- no key is below the marker from which the first page is fetched
  refine .fetching (List.forall_mem_nil _) fun key hk hle => ?_
  have hempty : key = "" := String.le_antisymm hle (String.not_lt.1 (Store.not_lt_empty key))
  exact absurd hempty (hs.ne_of_has hk.1.1)

/-- A move of the listing. -/
theorem Tracks.of_moves (h : Tracks bucket stem o₀ es f o) (hended : f.closed = true → f.worker = .ended)
    (hm : Moves (walkAll settings bucket stem).producer f o e f' o') :
    Tracks bucket stem o₀ (es ++ [e]) f' o' := by
  obtain ⟨hs, hf, hhas, hraised, handed, left, hp⟩ := h
  have hhas' : ∀ key, Lasts bucket key o₀ (es ++ [e]) → o.transport.Has bucket key :=
    fun key hk => hhas key hk.of_append
  cases hm with
  | refuse | drop | vanish => cases hended rfl
  | interrupt hmove | fail hmove => exact absurd hmove hp.position.not_fail
  | report =>
    cases hp.position with
    | done hw => cases hw
  | finish hmove =>
    obtain ⟨rfl, hposition⟩ := hp.position.of_finish hmove
    exact ⟨hs, hf, hhas', by simp [hraised], handed, [], hp.append rfl hposition⟩
  | conclude =>
    cases hp.position with
    | done _ hc => exact ⟨hs, hf, hhas', by simp [hraised], handed, [], hp.append rfl (.done .ended hc)⟩
  | accept hmove =>
    obtain ⟨info, rest, rfl, rfl, hposition⟩ := hp.position.of_offer hmove
    refine ⟨hs, hf, hhas', by simp [hraised], handed ++ [info], rest, ?_, ?_, ?_, ?_⟩
    · simp [hp.handed_eq]
    · exact hposition.mono fun key hk => ⟨hk.1.of_append, hk.2⟩
    · simpa using hp.ascending
    · intro other hi
      obtain ⟨hne, hstem, hpage⟩ := hp.listed other (by simpa using hi)
      exact ⟨hne, hstem, hpage.append⟩
  | work hmove =>
    obtain ⟨rfl, hstage⟩ := hp.position.of_work hmove
    have hsorted : (handed.map (·.key)).Pairwise (· < ·) := by simpa using hp.ascending
    rcases hstage with ⟨marker, rfl, rfl, hle, hc⟩ | ⟨page, before, shown, rfl, rfl, hh, hentries, hne, hc⟩
    · obtain ⟨page, hpage, hlists⟩ := hs.listObjects_lists settings.maxKeys_pos bucket marker stem
      obtain ⟨o₁, hfetch, hobjects, hfaults⟩ := fetchPage_of_ok hf hpage
      rw [hfetch] at hhas' ⊢
      refine ⟨hs.of_objects hobjects, by rwa [hfaults], fun key hk => ?_, by simp [hraised], handed, page.entries, ?_⟩
      · exact (Store.has_iff_of_objects hobjects bucket key).2 (hhas' key hk)
      refine ⟨by simp [hp.handed_eq], ?_, Position.pairwise_of_lists hle hsorted hlists, fun info hi => ?_⟩
      · refine (Position.of_lists hc (fun key hk => ⟨hhas key hk.1, hk.2⟩) hlists).mono fun key hk => ?_
        exact ⟨hk.1.of_append, hk.2⟩
      · rcases List.mem_append.1 hi with hi | hi
        · obtain ⟨hne, hstem, hpage⟩ := hp.listed info (by simpa using hi)
          exact ⟨hne, hstem, hpage.append⟩
        · obtain ⟨hstem, hm, hhasInfo⟩ := hlists.listed info hi
          exact ⟨Store.ne_empty_of_lt hm, hstem, o, marker, ⟨page.entries.map some, page.truncated, page.nextMarker⟩,
            List.mem_append_right _ List.mem_cons_self, List.mem_map_of_mem hi, hhasInfo⟩
    · have hkeys : ∀ info ∈ handed, info.key ≠ "" := fun info hi => (hp.listed info (by simpa using hi)).1
      exact ⟨hs, hf, hhas', by simp [hraised], handed, [],
        hp.append rfl (.of_afterPage hh hentries hne hc hsorted hkeys)⟩

/-- A step in which neither the producer nor anybody else changes something. -/
theorem Tracks.pass (h : Tracks bucket stem o₀ es f o) (hw : f'.worker = f.worker) (he : e.emitted? = none)
    (hr : e.raised? = none) : Tracks bucket stem o₀ (es ++ [e]) f' o := by
  obtain ⟨hs, hf, hhas, hraised, handed, left, hp⟩ := h
  have hunfailed : raised (es ++ [e]) = [] := by
    rw [raised_append, raised_cons, hr, hraised]
    rfl
  refine ⟨hs, hf, fun key hk => hhas key hk.of_append, hunfailed, handed, left, ?_⟩
  rw [hw]
  exact hp.append he hp.position

theorem Tracks.step (h : Tracks bucket stem o₀ es f o) (hended : f.closed = true → f.worker = .ended)
    (hs : Step (walkAll settings bucket stem).producer Operation f o e f' o') (he : e ≠ .closed) :
    Tracks bucket stem o₀ (es ++ [e]) f' o' := by
  cases hs with
  | move hm hevent => exact h.of_moves hended (advance_cases hm hevent)
  | close => exact absurd rfl he
  | take ht => exact h.pass (take_cases ht).worker_eq rfl rfl
  | get ht => exact h.pass (get_cases ht).worker_eq rfl rfl
  | look hl => exact h.pass (by rw [hl.eq]) rfl rfl
  | disturb ho =>
    obtain ⟨hs, hf, hhas, hraised, handed, left, hp⟩ := h
    obtain ⟨hs', hfaults⟩ := ho.sound hs
    refine ⟨hs', by rwa [hfaults], fun key hk => ?_, by simp [hraised], handed, left, hp.append rfl hp.position⟩
    exact hk.2 _ (List.mem_append_right _ List.mem_cons_self)

/-- After every run in which the feed is not closed by its consumer. -/
theorem Tracks.of_runs (hs : o.transport.Sound) (hf : o.transport.faults.SparesListings)
    (h : Runs (walkAll settings bucket stem).producer Operation
      (walkAll settings bucket stem).feed o es f o') (hopen : Event.closed ∉ es) :
    Tracks bucket stem o es f o' := by
  have hstart : Ledger ([] : List ListingEvent) (walkAll settings bucket stem).feed ∧
      (Event.closed ∉ ([] : List ListingEvent) →
        Tracks bucket stem o [] (walkAll settings bucket stem).feed o) :=
    ⟨.start _, fun _ => .start settings hs hf⟩
  refine (h.keeps (P := fun es f o' => Ledger es f ∧ (Event.closed ∉ es → Tracks bucket stem o es f o')) hstart
    fun {es f o₁ e f' o₂} hkept hstep => ⟨hkept.1.step hstep, fun hopen => ?_⟩).2 hopen
  simp only [List.mem_append, List.mem_singleton, not_or] at hopen
  exact (hkept.2 hopen.1).step (fun hc => (hkept.1.complete hopen.1 hc).1) hstep fun he => hopen.2 he.symm

end

/-- **A listing while the store changes.** From every state of the store, and while clients create and delete objects at
any time, a recursive listing that is not made to fail delivers keys in ascending order, each starting with the stem and
of an object that the bucket had when the page was fetched. When it has come to its end, it has delivered every key of
that stem of which the bucket has had an object all the time. -/
theorem keys_under_change {settings : Settings} {partSize : Option Int} {name stem : String} {o o' : Observed Store}
    {walk : Walk Store String ObjectInfo} {f : Feed (Stage String ObjectInfo) ObjectInfo} {es : List ListingEvent}
    (hw : (client settings partSize).listObjects name stem true = .ok walk) (hr : o.transport.Reached)
    (hf : o.transport.faults.SparesListings) (h : Runs walk.producer Operation walk.feed o es f o')
    (hopen : Event.closed ∉ es) :
    ∃ (bucket : String) (infos : List ObjectInfo), Argument.bucket name = .ok bucket ∧ received es = infos.map .value ∧
      (infos.map (·.key)).Pairwise (· < ·) ∧
      (∀ info ∈ infos, stem.toList <+: info.key.toList ∧ OnPage bucket es info) ∧
      (Event.took .stopped ∈ es →
        ∀ key, stem.toList <+: key.toList → Lasts bucket key o es → key ∈ infos.map (·.key)) := by
  unfold Client.listObjects at hw
  cases hb : Argument.bucket name with
  | error e =>
    rw [hb] at hw
    cases hw
  | ok bucket =>
    rw [hb] at hw
    cases hw
    have hl := Ledger.of_runs h
    have ht : Tracks bucket stem o es f o' := Tracks.of_runs hr.sound hf h hopen
    obtain ⟨handed, left, hp⟩ := ht.progress
    -- what has been received are the first of the entries that were handed over
    obtain ⟨rest, hrest⟩ := hl.received_prefix
    rw [ht.unfailed, List.append_nil, hp.handed_eq, eq_comm, List.map_eq_append_iff] at hrest
    obtain ⟨infos, others, rfl, hinfos, -⟩ := hrest
    have hsorted := hp.ascending
    rw [List.append_assoc, List.map_append, List.pairwise_append] at hsorted
    refine ⟨bucket, infos, rfl, hinfos.symm, hsorted.1, fun info hi => ?_, fun hend key hstem hlasts => ?_⟩
    · exact (hp.listed info (by simp [hi])).2
    · obtain ⟨hw, -, hall⟩ := hl.complete hopen (hl.closed_of_stopped hend)
      have hnone : others = [] := by
        rw [ht.unfailed, List.append_nil, hp.handed_eq, ← hinfos] at hall
        simpa using congrArg List.length hall
      have hposition := hp.position
      rw [hw, hnone, List.append_nil] at hposition
      cases hposition with
      | done _ hc => exact hc key ⟨hlasts, hstem⟩

/-- Of two objects on a page the first one is deleted before it is delivered; the second one is not missed. -/
theorem keys_under_change_of_deleted :
    let settings : Settings := { listMaxKeys := .int 2, maxKeys := 2 }
    ∃ walk o es f o', (client settings none).listObjects " b " "" true = .ok walk ∧
      Runs walk.producer Operation walk.feed o es f o' ∧
      (∃ o₁, Event.disturbed o₁ ∈ es ∧ ¬o₁.transport.Has "b" "x") ∧
      ∃ infos : List ObjectInfo, received es = infos.map .value ∧ (infos.map (·.key)).Pairwise (· < ·) ∧
        "y" ∈ infos.map (·.key) := by
  intro settings
  let tag := payloadTag .empty
  let x : StoredObject := ⟨"b", "x", .empty, tag, none⟩
  let y : StoredObject := ⟨"b", "y", .empty, tag, none⟩
  let o : Observed Store := ⟨(({} : Store).addObject "b" "x" .empty).addObject "b" "y" .empty, [], {}⟩
  let page : Page String (Option ObjectInfo) := ⟨[some (x.info "x"), some (y.info "y")], false, ""⟩
  have hr : o.transport.Reached := .addObject _ _ _ (.addObject _ _ _ (.new .null) (by decide)) (by decide)
  have hspared : o.transport.faults.SparesListings := ⟨rfl, fun _ => rfl⟩
  have hobjects : o.transport.objects = ⟨[("b/x", x), ("b/y", y)]⟩ := rfl
  have hpage : o.transport.listObjects "b" settings.maxKeys "" "" "" = .ok ⟨[x.info "x", y.info "y"], false, ""⟩ := by
    have hkeys : o.transport.listedKeys "b" "" "" "" = ["x", "y"] := by
      have hx : Store.isListed "" "" "" "x" = true := by decide
      have hy : Store.isListed "" "" "" "y" = true := by decide
      simp only [Store.listedKeys, hobjects, Dictionary.values, x, y, List.map_cons, List.map_nil, List.filter_cons,
        List.filter_nil, beq_self_eq_true, if_true, hx, hy]
      exact List.mergeSort_of_pairwise (by decide)
    have hx : o.transport.info "b" "x" = .ok (x.info "x") := rfl
    have hy : o.transport.info "b" "y" = .ok (y.info "y") := rfl
    have hshown : takeBefore ["x", "y"] settings.maxKeys = ["x", "y"] := rfl
    simp only [Store.listObjects, hkeys, hshown, List.mapM_cons, List.mapM_nil, hx, hy]
    rfl
  obtain ⟨o₁, hfetch, hobjects₁, hfaults₁⟩ := fetchPage_of_ok hspared hpage
  let walk := walkAll settings "b" ""
  have hmove : walk.feed.advance walk.producer o = some ({ worker := .running (.emitting page.entries page) }, o₁) :=
    congrArg (fun s : _ × Observed Store => some (({ worker := .running s.1 } : Feed _ ObjectInfo), s.2)) hfetch
  have hevent : walk.feed.event walk.producer o = .worked o (.fetching "") (.emitting page.entries page) :=
    congrArg (fun after => (Event.worked o (.fetching "") after : ListingEvent)) (congrArg Prod.fst hfetch)
  -- the first object is deleted
  let o₂ := ((client settings none).deleteObject " b " "x" o₁).2
  have hobjects₂ : o₂.transport.objects = ⟨[("b/y", y)]⟩ := by
    have hnone : o₁.transport.faults.methods.get? (Request.deleteObject "b" "x").method.name = none := by
      rw [hfaults₁]
      rfl
    have hstore : o₂.transport = (o₁.transport.perform (.deleteObject "b" "x")).2 := rfl
    rw [hstore, Store.perform_of_not_fault hnone]
    show o₁.transport.objects.erase (objectPath "b" "x") = _
    rw [hobjects₁, hobjects]
    rfl
  let es : List ListingEvent := [.worked o (.fetching "") (.emitting page.entries page),
    .answered (.value (x.info "x")) true, .disturbed o₂, .took (.item (.value (x.info "x"))),
    .answered (.value (y.info "y")) true, .took (.item (.value (y.info "y"))),
    .worked o₂ (.emitting [] page) .finished, .passed, .passed, .took .stopped]
  have h : Runs walk.producer Operation walk.feed o es _ o₂ :=
    .cons (.move hmove hevent) <| .cons (.move rfl rfl) <| .cons (.disturb (.delete settings none " b " "x" o₁)) <|
      .cons (.take rfl) <| .cons (.move rfl rfl) <| .cons (.take rfl) <| .cons (.move rfl rfl) <|
      .cons (.move rfl rfl) <| .cons (.move rfl rfl) <| .cons (.take rfl) .nil
  have hwalk : (client settings none).listObjects " b " "" true = .ok walk := rfl
  obtain ⟨bucket, infos, hbucket, hreceived, hsorted, -, hall⟩ :=
    keys_under_change hwalk hr hspared h (by simp [es])
  obtain rfl : bucket = "b" := (Except.ok.inj hbucket).symm
  have hlasts : Lasts "b" "y" o es := by
    refine ⟨⟨y, by simp [hobjects, Dictionary.values], rfl, rfl⟩, fun o' hm => ?_⟩
    obtain rfl : o' = o₂ := by simpa [es] using hm
    exact ⟨y, by simp [hobjects₂, Dictionary.values], rfl, rfl⟩
  refine ⟨walk, o, es, _, o₂, rfl, h, ⟨o₂, by simp [es], ?_⟩, infos, hreceived, hsorted,
    hall (by simp [es]) "y" List.nil_prefix hlasts⟩
  rintro ⟨object, hm, -, hk⟩
  obtain rfl : object = y := by simpa [hobjects₂, Dictionary.values] using hm
  exact absurd hk (by decide)

end BucketClient.Listing
