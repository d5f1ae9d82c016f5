import BucketClient.Proofs.Memory.Representation

/-!
# Clients of the store in memory

A client of the store in memory does not notice that it is not a shelf. From a store that represents a shelf, each
proper command has one outcome, which is the one that the command has on the shelf, and afterwards the store represents
the shelf again (`Follows`, with one lemma per command). So commands that are issued one after the other have one
history (`exists_history`), and from an empty store it is a run of the empty shelf (`client_refines_shelf`).
-/

namespace BucketClient

open Memory

/-- The arguments of a command pass, its bucket has no slash, an upload declares as many bytes as its source gives, and
a listing is recursive. -/
structure Command.Proper (command : Command) : Prop where
  valid : command.Valid
  slashless : ∀ bucket ∈ command.bucket?, '/' ∉ (Text.strip bucket).toList
  truthful : ∀ name key size source contentType, command = .createObject name key size source contentType →
    ∃ bytes, source.Yields bytes ∧ size = bytes.size
  recursive : ∀ name stem recursive, command = .listObjects name stem recursive → recursive = true

namespace Shelf

/-- One thing only can come of a command, and it is what the command comes to on the shelf. -/
def Follows (client : Client Store) (shelf : Shelf) (o : Observed Store) (command : Command) : Prop :=
  ∃ (outcome : Except Failure command.Gain) (o₁ : Observed Store) (shelf₁ : Shelf),
    (∀ outcome' o', client.Does o ⟨command, outcome'⟩ o' ↔ outcome' = outcome ∧ o' = o₁) ∧
    shelf.Admits o.transport.now command outcome shelf₁ ∧ shelf₁.Represents o₁.transport ∧
    o₁.transport.now = o.transport.now

section

variable {settings : Settings} {partSize : Option Int} {shelf : Shelf} {o : Observed Store} {name key : String}

/-- A request is remembered and then served. -/
theorem Represents.perform_eq (h : shelf.Represents o.transport) (request : Request) :
    ∃ s, o.transport.perform request = s.serve request ∧ shelf.Represents s ∧ s.now = o.transport.now :=
  ⟨_, Store.perform_of_faultless h.faultless request, h.of_agrees ⟨rfl, rfl, rfl, rfl⟩, rfl⟩

theorem perform_of_serve {request : Request} {s s₁ : Store} {outcome : request.Outcome}
    (hp : o.transport.perform request = s.serve request) (hs : s.serve request = (outcome, s₁)) :
    o.perform (client settings partSize).transport request = (outcome, { o with transport := s₁ }) :=
  Observed.perform_eq (hp.trans hs)

/-- A command follows the shelf when the shelf admits the one way in which what it returns can end. -/
theorem follows_of_ends {client : Client Store} {command : Command} {report : Upload.Report Store (command.Yield Store)}
    {outcome : Except Failure command.Gain} {o₁ : Observed Store} {shelf₁ : Shelf}
    (hissue : client.issue command o = report)
    (hends : ∀ outcome' o', report.Ends command.Gains outcome' o' ↔ outcome' = outcome ∧ o' = o₁)
    (hadmits : shelf.Admits o.transport.now command outcome shelf₁) (h₁ : shelf₁.Represents o₁.transport)
    (hn : o₁.transport.now = o.transport.now) : Follows client shelf o command :=
  ⟨outcome, o₁, shelf₁, fun _ _ => (Client.does_iff hissue).trans (hends _ _), hadmits, h₁, hn⟩

/-! ## Objects -/

section

variable (h : shelf.Represents o.transport) (hb : '/' ∉ (Text.strip name).toList)

include h hb

theorem follows_createObject {size : Int} {source : Source} {contentType : Option String} {bytes : ByteArray}
    {partSize : Int} (h0 : 0 < partSize) (hv : (Command.createObject name key size source contentType).Valid)
    (hs : source.Yields bytes) (hn : size = bytes.size) :
    Follows (client settings (some partSize)) shelf o (.createObject name key size source contentType) := by
  subst hn
  obtain ⟨hbucket, hkey, -⟩ := Client.accepted_of_valid hv
  have hcreates :=
    (client settings (some partSize)).createObject_creates name key (some bytes.size) source contentType o
  have hr := (client settings (some partSize)).result_account name key (some bytes.size) source contentType o
  have hissue := (client settings (some partSize)).issue_createObject o name key bytes.size source contentType
  generalize (client settings (some partSize)).createObject name key (some bytes.size) source contentType o = report
    at hcreates hr hissue
  generalize (client settings (some partSize)).account name key (some bytes.size) source contentType o = account
    at hcreates hr
  have hrun : transport.Runs o.transport account.exchanges report.after.transport := hcreates.1
  obtain ⟨tag, htag, hgains⟩ := gains_of_creates hbucket hkey h0 hs h.faultless hcreates.2 hrun
  have hresult : report.result = .ok tag := hr.symm.trans htag
  have hnow := now_of_runs hrun
  have hstored := h.of_gains hgains (faults_of_runs hrun) hnow hb (Command.valid_createObject_iff.1 hv).2.1
  refine follows_of_ends hissue (fun _ _ => ?_) (.created hs rfl) hstored hnow
  rw [← hresult]
  exact Upload.Report.ends_iff

theorem follows_getObject {offset length : Int} (hv : (Command.getObject name key offset length).Valid) :
    Follows (client settings partSize) shelf o (.getObject name key offset length) := by
  obtain ⟨s, hperform, h, hn⟩ := h.perform_eq (.getObject (Text.strip name) key (some offset) (some length))
  have hissue := (client settings partSize).issue_getObject o hv
  obtain ⟨-, ho, hl⟩ := Command.valid_getObject_iff.1 hv
  cases he : shelf.objects (Text.strip name) key with
  | none =>
    rw [perform_of_serve hperform (congrArg (·, s) (h.getObject_of_none hb he _ _))] at hissue
    exact follows_of_ends hissue (fun _ _ => Upload.Report.ends_iff) (.unread he) h hn
  | some entry =>
    rw [perform_of_serve hperform (congrArg (·, s) (h.getObject_of_some hb he ho hl))] at hissue
    exact follows_of_ends hissue (fun _ _ => Upload.Report.ends_iff) (.read he) h hn

theorem follows_statObject (hv : (Command.statObject name key).Valid) :
    Follows (client settings partSize) shelf o (.statObject name key) := by
  obtain ⟨s, hperform, h, hn⟩ := h.perform_eq (.headObject (Text.strip name) key)
  have hissue := (client settings partSize).issue_statObject o hv
  cases he : shelf.objects (Text.strip name) key with
  | none =>
    rw [perform_of_serve hperform (congrArg (·, s) (h.info_of_none hb he))] at hissue
    exact follows_of_ends hissue (fun _ _ => Upload.Report.ends_iff) (.untold he) h hn
  | some entry =>
    rw [perform_of_serve hperform (congrArg (·, s) (h.info_of_some hb he))] at hissue
    exact follows_of_ends hissue (fun _ _ => Upload.Report.ends_iff) (.told he) h hn

theorem follows_deleteObject (hv : (Command.deleteObject name key).Valid) :
    Follows (client settings partSize) shelf o (.deleteObject name key) := by
  obtain ⟨s, hperform, h, hn⟩ := h.perform_eq (.deleteObject (Text.strip name) key)
  have hissue := (client settings partSize).issue_deleteObject o hv
  rw [perform_of_serve hperform rfl] at hissue
  exact follows_of_ends hissue (fun _ _ => Upload.Report.ends_iff) .deleted (h.of_erase hb) hn

end

/-! ## Buckets -/

section

variable (h : shelf.Represents o.transport)

include h

theorem follows_createBucket {given : Option String} (hv : (Command.createBucket name given).Valid) :
    Follows (client settings partSize) shelf o (.createBucket name given) := by
  obtain ⟨s, hperform, h, hn⟩ :=
    h.perform_eq (.putBucket (Text.strip name) (Text.lower (Text.strip (given.getD ""))))
  have hissue := (client settings partSize).issue_createBucket o hv
  cases he : shelf.rules (Text.strip name) with
  | none =>
    rw [perform_of_serve hperform (h.putBucket_of_none he _)] at hissue
    exact follows_of_ends hissue (fun _ _ => Upload.Report.ends_iff) (.bucketCreated he) (h.of_insert_bucket _) hn
  | some rule =>
    rw [perform_of_serve hperform (h.putBucket_of_some he _)] at hissue
    exact follows_of_ends hissue (fun _ _ => Upload.Report.ends_iff) (.bucketExists he) h hn

theorem follows_setBucketAcl {given : Option String} (hv : (Command.setBucketAcl name given).Valid) :
    Follows (client settings partSize) shelf o (.setBucketAcl name given) := by
  obtain ⟨s, hperform, h, hn⟩ :=
    h.perform_eq (.putBucketAcl (Text.strip name) (Text.lower (Text.strip (given.getD ""))))
  have hissue := (client settings partSize).issue_setBucketAcl o hv
  cases he : shelf.rules (Text.strip name) with
  | none =>
    rw [perform_of_serve hperform (h.putBucketAcl_of_none he _)] at hissue
    exact follows_of_ends hissue (fun _ _ => Upload.Report.ends_iff) (.ruleUnset he) h hn
  | some rule =>
    rw [perform_of_serve hperform (h.putBucketAcl_of_some he _)] at hissue
    exact follows_of_ends hissue (fun _ _ => Upload.Report.ends_iff) (.ruleSet he) (h.of_insert_bucket _) hn

theorem follows_statBucket (hv : (Command.statBucket name).Valid) :
    Follows (client settings partSize) shelf o (.statBucket name) := by
  obtain ⟨s, hperform, h, hn⟩ := h.perform_eq (.headBucket (Text.strip name))
  have hissue := (client settings partSize).issue_statBucket o hv
  cases he : shelf.rules (Text.strip name) with
  | none =>
    rw [perform_of_serve hperform (congrArg (·, s) (h.headBucket_of_none he))] at hissue
    exact follows_of_ends hissue (fun _ _ => Upload.Report.ends_iff) (.bucketUntold he) h hn
  | some rule =>
    rw [perform_of_serve hperform (congrArg (·, s) (h.headBucket_of_some he))] at hissue
    exact follows_of_ends hissue (fun _ _ => Upload.Report.ends_iff) (.bucketTold he) h hn

theorem follows_deleteBucket (hv : (Command.deleteBucket name).Valid) (hb : '/' ∉ (Text.strip name).toList) :
    Follows (client settings partSize) shelf o (.deleteBucket name) := by
  obtain ⟨s, hperform, h, hn⟩ := h.perform_eq (.deleteBucket (Text.strip name))
  have hissue := (client settings partSize).issue_deleteBucket o hv
  by_cases he : ∃ key entry, shelf.objects (Text.strip name) key = some entry
  · rw [perform_of_serve hperform (h.deleteBucket_of_exists hb he)] at hissue
    obtain ⟨key, entry, he⟩ := he
    exact follows_of_ends hissue (fun _ _ => Upload.Report.ends_iff) (.bucketKept he) h hn
  · rw [perform_of_serve hperform (h.deleteBucket_of_not_exists hb he)] at hissue
    have hnone : ∀ key, shelf.objects (Text.strip name) key = none := fun key =>
      Option.eq_none_iff_forall_ne_some.2 fun entry hentry => he ⟨key, entry, hentry⟩
    exact follows_of_ends hissue (fun _ _ => Upload.Report.ends_iff) (.bucketDeleted hnone) h.of_erase_bucket hn

/-! ## Listings -/

theorem follows_listObjects {stem : String} (hv : (Command.listObjects name stem true).Valid)
    (hb : '/' ∉ (Text.strip name).toList) :
    Follows (client settings partSize) shelf o (.listObjects name stem true) := by
  have hspared : o.transport.faults.SparesListings := by
    rw [h.faultless]
    exact ⟨rfl, fun _ => rfl⟩
  obtain ⟨markers, infos, o₁, hcourse, -, hkeys, hfound, hasks⟩ :=
    Listing.exists_course_walkAll settings (Text.strip name) stem "" h.sound hspared
  have hissue : (client settings partSize).issue (.listObjects name stem true) o =
      .ofResult (.ok (Listing.walkAll settings (Text.strip name) stem), o) := by
    rw [Client.issue, Client.listObjects_of_ne _ (Command.valid_listObjects_iff.1 hv)]
    rfl
  have hadmits : shelf.Admits o.transport.now (.listObjects name stem true) (.ok (infos.map .value)) shelf :=
    .objectsListed (hkeys ▸ h.sound.pairwise_listedKeys _ _ _ _) (h.mem_listed_iff hb hkeys hfound)
  exact follows_of_ends hissue (fun _ _ => Upload.Report.ends_iff_of_course hcourse) hadmits
    (h.of_agrees hasks.agrees) hasks.agrees.now

theorem follows_listBuckets : Follows (client settings partSize) shelf o .listBuckets := by
  obtain ⟨o₁, hcourse, hsame⟩ := Listing.exists_course_buckets settings h.faultless
  have hissue : (client settings partSize).issue .listBuckets o =
      .ofResult (.ok (Listing.buckets transport settings), o) := rfl
  exact follows_of_ends hissue (fun _ _ => Upload.Report.ends_iff_of_course hcourse)
    (.bucketsListed h.pairwise_listBuckets h.mem_listBuckets) (h.of_agrees hsame) hsame.now

end

end

/-! ## Histories -/

section

variable (settings : Settings) {partSize : Int} (h0 : 0 < partSize) {shelf : Shelf} {o : Observed Store}
  (h : shelf.Represents o.transport)

include h0 h

/-- One proper command. -/
theorem follows_of_proper {command : Command} (hc : command.Proper) :
    Follows (client settings (some partSize)) shelf o command := by
  obtain ⟨hv, hb, htruthful, hrecursive⟩ := hc
  cases command with
  | createObject name key size source contentType =>
    obtain ⟨bytes, hs, hn⟩ := htruthful _ _ _ _ _ rfl
    exact follows_createObject h (hb name rfl) h0 hv hs hn
  | getObject name => exact follows_getObject h (hb name rfl) hv
  | statObject name => exact follows_statObject h (hb name rfl) hv
  | deleteObject name => exact follows_deleteObject h (hb name rfl) hv
  | createBucket => exact follows_createBucket h hv
  | setBucketAcl => exact follows_setBucketAcl h hv
  | statBucket => exact follows_statBucket h hv
  | deleteBucket name => exact follows_deleteBucket h hv (hb name rfl)
  | listObjects name stem recursive =>
    obtain rfl := hrecursive _ _ _ rfl
    exact follows_listObjects h hv (hb name rfl)
  | listBuckets => exact follows_listBuckets h

/-- Proper commands one after the other. -/
theorem exists_history {commands : List Command} (hc : ∀ command ∈ commands, command.Proper) :
    ∃ deeds o' shelf', deeds.map Deed.command = commands ∧
      (∀ others o₁, others.map Deed.command = commands →
        ((client settings (some partSize)).Performs o others o₁ ↔ others = deeds ∧ o₁ = o')) ∧
      Runs o.transport.now shelf deeds shelf' ∧ shelf'.Represents o'.transport := by
  induction commands generalizing shelf o with
  | nil =>
    refine ⟨[], o, shelf, rfl, fun others o₁ hm => ?_, .nil, h⟩
    obtain rfl := List.map_eq_nil_iff.1 hm
    constructor
    · intro hp
      cases hp
      exact ⟨rfl, rfl⟩
    · rintro ⟨-, rfl⟩
      exact .nil
  | cons command commands ih =>
    obtain ⟨hcommand, hrest⟩ := List.forall_mem_cons.1 hc
    obtain ⟨outcome, o₁, shelf₁, hdoes, hadmits, h₁, hnow⟩ := follows_of_proper settings h0 h hcommand
    obtain ⟨deeds, o', shelf', hm, hperforms, hruns, h'⟩ := ih h₁ hrest
    rw [hnow] at hruns
    refine ⟨⟨command, outcome⟩ :: deeds, o', shelf', by rw [List.map_cons, hm], fun others o₂ hm' => ?_,
      .cons hadmits hruns, h'⟩
    obtain ⟨⟨command', outcome'⟩, others, rfl, rfl, hothers⟩ := List.map_eq_cons_iff.1 hm'
    constructor
    · intro hp
      cases hp with
      | cons hd hs =>
        obtain ⟨rfl, rfl⟩ := (hdoes _ _).1 hd
        obtain ⟨rfl, rfl⟩ := (hperforms _ _ hothers).1 hs
        exact ⟨rfl, rfl⟩
    · rintro ⟨heq, rfl⟩
      obtain ⟨hfirst, rfl⟩ := List.cons.inj heq
      cases hfirst
      exact .cons ((hdoes _ _).2 ⟨rfl, rfl⟩) ((hperforms _ _ hothers).2 ⟨rfl, rfl⟩)

end

/-- **A client of an empty store in memory is a client of an empty shelf.** However its uploads are cut into parts and
its listings into pages, and whoever reads the listings, there is one way only to perform proper commands. Their
outcomes are those of a run of the shelf, and the store represents the shelf that the run leads to. -/
theorem client_refines_shelf (settings : Settings) {partSize : Int} (h0 : 0 < partSize) (now : Value)
    (journal : List Log.Record) (metrics : Metrics) {commands : List Command}
    (hc : ∀ command ∈ commands, command.Proper) :
    ∃ (deeds : List Deed) (o' : Observed Store) (shelf : Shelf), deeds.map Deed.command = commands ∧
      (∀ others o₁, others.map Deed.command = commands →
        ((client settings (some partSize)).Performs ⟨{ now := now }, journal, metrics⟩ others o₁ ↔
          others = deeds ∧ o₁ = o')) ∧
      Runs now empty deeds shelf ∧ shelf.Represents o'.transport :=
  exists_history settings h0 (o := ⟨{ now := now }, journal, metrics⟩) (represents_empty now) hc

/-- A bucket that holds an object is not deleted. The object is uploaded in two parts, and the byte between is read. -/
theorem client_refines_shelf_of_full_bucket :
    let source : Source := .ofBytes ⟨#[1, 2, 3]⟩ { step := some 1 }
    ∃ (tag : String) (o' : Observed Store),
      let info : ObjectInfo := { key := "k", size := 3, tag := .text tag, contentType := .text "text/plain" }
      (client {} (some 2)).Performs ⟨{}, [], {}⟩ [
        ⟨.createBucket " b " (some "private"), .ok ()⟩,
        ⟨.createObject "b" "k" 3 source (some "text/plain"), .ok tag⟩,
        ⟨.deleteBucket "b", .error (.storage (.bucketNotEmpty "b"))⟩,
        ⟨.getObject " b" "k" 1 1, .ok (.bytes ⟨#[2]⟩, info)⟩,
        ⟨.listObjects "b" "" true, .ok [.value info]⟩] o' := by
  intro source
  have hs : source.Yields ⟨#[1, 2, 3]⟩ := (Source.delivers_ofBytes (by decide) rfl _).yields
  let commands : List Command := [.createBucket " b " (some "private"),
    .createObject "b" "k" 3 source (some "text/plain"), .deleteBucket "b", .getObject " b" "k" 1 1,
    .listObjects "b" "" true]
  have hc : ∀ command ∈ commands, command.Proper := by
    refine List.forall_mem_cons.2 ⟨?_, List.forall_mem_cons.2 ⟨?_, List.forall_mem_cons.2 ⟨?_,
      List.forall_mem_cons.2 ⟨?_, List.forall_mem_singleton.2 ?_⟩⟩⟩⟩
    · exact ⟨Command.valid_createBucket_iff.2 ⟨by decide, .ownerOnly, by decide⟩, by decide, nofun, nofun⟩
    · exact ⟨Command.valid_createObject_iff.2 (by decide), fun _ hb => by cases hb; decide,
        fun _ _ _ _ _ he => by cases he; exact ⟨_, hs, rfl⟩, nofun⟩
    · exact ⟨Command.valid_deleteBucket_iff.2 (by decide), by decide, nofun, nofun⟩
    · exact ⟨Command.valid_getObject_iff.2 (by decide), by decide, nofun, nofun⟩
    · exact ⟨Command.valid_listObjects_iff.2 (by decide), by decide, nofun, fun _ _ _ he => by cases he; rfl⟩
  obtain ⟨deeds, o', shelf, hm, hperforms, hruns, -⟩ :=
    client_refines_shelf {} (show (0 : Int) < 2 by decide) .null [] {} hc
  have hp := (hperforms deeds o' hm).2 ⟨rfl, rfl⟩
  clear hperforms
  obtain ⟨_, _, _, rfl, hm, hcreated, hruns⟩ := hruns.cons_inv hm
  obtain ⟨_, _, stored, rfl, hm, hstored, hruns⟩ := hruns.cons_inv hm
  obtain ⟨_, _, _, rfl, hm, hkept, hruns⟩ := hruns.cons_inv hm
  obtain ⟨_, _, _, rfl, hm, hread, hruns⟩ := hruns.cons_inv hm
  obtain ⟨_, _, _, rfl, hm, hlisted, -⟩ := hruns.cons_inv hm
  obtain rfl := List.map_eq_nil_iff.1 hm
  obtain ⟨rfl, rfl⟩ := hcreated.unique (by simp) (.bucketCreated rfl)
  obtain ⟨tag, rfl, hshelf⟩ := hstored.exists_tag hs
  let entry : Entry := ⟨⟨#[1, 2, 3]⟩, tag, some "text/plain"⟩
  have hobjects : ∀ key, stored.objects "b" key = if key = "k" then some entry else none := by
    intro key
    rw [hshelf]
    exact if_congr (and_iff_right rfl) rfl rfl
  have hentry : stored.objects "b" "k" = some entry := hobjects "k"
  have hlist : ∀ info, info ∈ [entry.info "k"] ↔ "".toList <+: info.key.toList ∧
      ∃ found, stored.objects "b" info.key = some found ∧ info = found.info info.key := by
    intro info
    rw [List.mem_singleton, hobjects]
    constructor
    · rintro rfl
      exact ⟨List.nil_prefix, entry, rfl, rfl⟩
    · rintro ⟨-, found, hfound, hinfo⟩
      split at hfound
      · rename_i hk
        cases hfound
        rwa [hk] at hinfo
      · cases hfound
  obtain ⟨rfl, rfl⟩ := hkept.unique (by simp) (.bucketKept hentry)
  obtain ⟨rfl, rfl⟩ := hread.unique (by simp) (.read hentry)
  obtain ⟨rfl, rfl⟩ := hlisted.unique (by simp) (.objectsListed (List.pairwise_singleton ..) hlist)
  exact ⟨tag, o', hp⟩

end Shelf

end BucketClient
