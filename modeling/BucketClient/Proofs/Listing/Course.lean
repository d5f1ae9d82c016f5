import BucketClient.Listing.Walk
import BucketClient.Proofs.Feed.Drain

/-!
# What a walk through pages delivers

`Walk.Course` says what a walk does from a marker on, one constructor for each way in which the treatment of a page can
end: which pages are fetched, from which markers and in which states, which items come of them, and what is logged.
The producer of a walk, a machine of stages, brings forth just this (`brings_of_course`, `course_of_brings`), and every
consumer who comes to the end of the feed receives it (`Course.eq_of_reads`, `pages_course`).
-/

namespace BucketClient.Walk

open Feed

variable {σ μ α : Type}

/-- The marker from which the page after a page with these values is fetched: the key of the last value, or the marker
of the page when it has none. -/
def continuation (walk : Walk σ μ α) (values : List α) (page : Page μ (Option α)) : Except Failure μ :=
  match values.getLast? with
  | some value => walk.key value
  | none => .ok page.nextMarker

/-- What a walk does from a marker on: the markers from which it fetches, the items, and the state after it. -/
inductive Course (walk : Walk σ μ α) : μ → Observed σ → List μ → List (Item α) → Observed σ → Prop
  /-- The page cannot be fetched. An interrupt gives no item and is not logged. -/
  | unfetched {m : μ} {o o₁ : Observed σ} {e : Failure} (hf : walk.fetch m walk.delimiter o = (.error e, o₁)) :
      Course walk m o [m] e.reported (if e.isInterrupt then o₁ else o₁.log (walk.complaint m e))
  /-- An entry of the page is absent. -/
  | absent {m : μ} {o o₁ : Observed σ} {page : Page μ (Option α)} {before : List α} {after : List (Option α)}
      (hf : walk.fetch m walk.delimiter o = (.ok page, o₁)) (hp : page.entries = before.map some ++ none :: after) :
      Course walk m o [m] (before.map .value ++ [.failure (.value .emptyItem)])
        (o₁.log (failureRecord (.value .emptyItem)))
  /-- The page is the last one: the walk is not recursive, or the page is not truncated. -/
  | last {m : μ} {o o₁ : Observed σ} {page : Page μ (Option α)} {values : List α}
      (hf : walk.fetch m walk.delimiter o = (.ok page, o₁)) (hp : page.entries = values.map some)
      (hlast : walk.recursive = false ∨ page.truncated = false) :
      Course walk m o [m] (values.map .value) o₁
  /-- The key of the last value cannot be had. -/
  | unnamed {m : μ} {o o₁ : Observed σ} {page : Page μ (Option α)} {values : List α} {e : Failure}
      (hf : walk.fetch m walk.delimiter o = (.ok page, o₁)) (hp : page.entries = values.map some)
      (hr : walk.recursive = true) (ht : page.truncated = true) (hc : walk.continuation values page = .error e) :
      Course walk m o [m] (values.map .value ++ e.reported) (o₁.failed e)
  /-- The page is truncated, but there is no marker to go on from. -/
  | unmarked {m next : μ} {o o₁ : Observed σ} {page : Page μ (Option α)} {values : List α}
      (hf : walk.fetch m walk.delimiter o = (.ok page, o₁)) (hp : page.entries = values.map some)
      (hr : walk.recursive = true) (ht : page.truncated = true) (hc : walk.continuation values page = .ok next)
      (hb : walk.isBlank next = true) :
      Course walk m o [m] (values.map .value ++ [.failure (.storage .missingMarker)]) o₁
  /-- The walk goes on after the page. -/
  | more {m next : μ} {o o₁ o' : Observed σ} {page : Page μ (Option α)} {values : List α} {markers : List μ}
      {items : List (Item α)} (hf : walk.fetch m walk.delimiter o = (.ok page, o₁))
      (hp : page.entries = values.map some) (hr : walk.recursive = true) (ht : page.truncated = true)
      (hc : walk.continuation values page = .ok next) (hb : walk.isBlank next = false)
      (h : Course walk next o₁ markers items o') :
      Course walk m o (m :: markers) (values.map .value ++ items) o'

section

variable {walk : Walk σ μ α} {m : μ} {page : Page μ (Option α)} {o o' : Observed σ} {stages : List (Stage μ α)}
  {markers : List μ} {items : List (Item α)} {e : Failure}

/-! ## What a course looks like -/

theorem reported_cases (e : Failure) :
    (e.reported : List (Item α)) = [] ∨ ∃ e', (e.reported : List (Item α)) = [.failure e'] := by
  unfold Failure.reported
  split
  · exact .inl rfl
  · exact .inr ⟨e, rfl⟩

/-- There are values, and behind them one failure at most. -/
theorem Course.items_eq (h : walk.Course m o markers items o') :
    ∃ (values : List α) (rest : List (Item α)), items = values.map .value ++ rest ∧
      (rest = [] ∨ ∃ e, rest = [.failure e]) := by
  induction h with
  | unfetched => exact ⟨[], _, rfl, reported_cases _⟩
  | absent => exact ⟨_, _, rfl, .inr ⟨_, rfl⟩⟩
  | last => exact ⟨_, [], (List.append_nil _).symm, .inl rfl⟩
  | unnamed => exact ⟨_, _, rfl, reported_cases _⟩
  | unmarked => exact ⟨_, _, rfl, .inr ⟨_, rfl⟩⟩
  | @more _ _ _ _ _ _ values _ _ _ _ _ _ _ _ _ ih =>
    obtain ⟨rest, failure, rfl, hf⟩ := ih
    exact ⟨values ++ rest, failure, by simp, hf⟩

/-- A walk that is not recursive fetches one page. -/
theorem Course.markers_eq (h : walk.Course m o markers items o') (hr : walk.recursive = false) : markers = [m] := by
  cases h with
  | more _ _ hr' => simp [hr] at hr'
  | _ => rfl

/-! ## The stages of a walk -/

/-- The marker of the page that is fetched at a stage. -/
@[simp] def Stage.fetched? : Stage μ α → Option μ
  | .fetching marker => some marker
  | _ => none

theorem brings_fetching_iff : walk.producer.Brings (.fetching m) o stages items o' ↔
    ∃ rest, stages = .fetching m :: rest ∧
      walk.producer.Brings (walk.fetchPage m o).1 (walk.fetchPage m o).2 rest items o' :=
  Producer.brings_iff_of_work rfl

theorem brings_finished_iff : walk.producer.Brings .finished o stages items o' ↔ stages = [] ∧ items = [] ∧ o' = o :=
  Producer.brings_iff_of_finish rfl

theorem brings_failing_iff : walk.producer.Brings (.failing e) o stages items o' ↔
    stages = [] ∧ items = e.reported ∧ o' = o.failed e :=
  Producer.brings_iff_of_fail rfl

theorem brings_ending_iff : walk.producer.Brings (.ending e) o stages items o' ↔
    stages = [] ∧ items = [.failure e] ∧ o' = o := by
  have hp : walk.producer (.ending e) = .offer (.failure e) fun _ => .finished := rfl
  rw [Producer.brings_iff_of_offer hp]
  constructor
  · rintro ⟨rest, rfl, hb⟩
    obtain ⟨rfl, rfl, rfl⟩ := brings_finished_iff.1 hb
    exact ⟨rfl, rfl, rfl⟩
  · rintro ⟨rfl, rfl, rfl⟩
    exact ⟨[], rfl, brings_finished_iff.2 ⟨rfl, rfl, rfl⟩⟩

theorem producer_emitting (value : α) (left : List (Option α)) (page : Page μ (Option α)) :
    walk.producer (.emitting (some value :: left) page) =
      .offer (.value value) fun accepted => if accepted then .emitting left page else .finished := rfl

/-- The values of a page are handed over, and then the walk goes on behind the page. -/
theorem brings_emitting_iff (values : List α) :
    walk.producer.Brings (.emitting (values.map some) page) o stages items o' ↔
      ∃ rest more, stages = .emitting [] page :: rest ∧ items = values.map .value ++ more ∧
        walk.producer.Brings (walk.afterPage page) o rest more o' := by
  induction values generalizing items with
  | nil =>
    have hp : walk.producer (.emitting [] page) = .work fun o => (walk.afterPage page, o) := rfl
    rw [List.map_nil, Producer.brings_iff_of_work hp]
    constructor
    · rintro ⟨rest, rfl, hb⟩
      exact ⟨rest, items, rfl, rfl, hb⟩
    · rintro ⟨rest, more, rfl, rfl, hb⟩
      exact ⟨rest, rfl, hb⟩
  | cons value values ih =>
    rw [List.map_cons, Producer.brings_iff_of_offer (producer_emitting value _ page)]
    constructor
    · rintro ⟨others, rfl, hb⟩
      obtain ⟨rest, more, rfl, rfl, hrest⟩ := ih.1 hb
      exact ⟨rest, more, rfl, rfl, hrest⟩
    · rintro ⟨rest, more, rfl, rfl, hb⟩
      exact ⟨values.map .value ++ more, rfl, ih.2 ⟨rest, more, rfl, rfl, hb⟩⟩

/-- The values up to an absent entry are handed over, and then the walk fails. -/
theorem brings_emitting_absent_iff (before : List α) (after : List (Option α)) :
    walk.producer.Brings (.emitting (before.map some ++ none :: after) page) o stages items o' ↔
      stages = [] ∧ items = before.map .value ++ [.failure (.value .emptyItem)] ∧
        o' = o.log (failureRecord (.value .emptyItem)) := by
  induction before generalizing items with
  | nil =>
    have hp : walk.producer (.emitting (none :: after) page) = .fail (.value .emptyItem) := rfl
    exact Producer.brings_iff_of_fail hp
  | cons value before ih =>
    rw [List.map_cons, List.cons_append, Producer.brings_iff_of_offer (producer_emitting value _ page)]
    constructor
    · rintro ⟨others, rfl, hb⟩
      obtain ⟨rfl, rfl, rfl⟩ := ih.1 hb
      exact ⟨rfl, rfl, rfl⟩
    · rintro ⟨rfl, rfl, rfl⟩
      exact ⟨_, rfl, ih.2 ⟨rfl, rfl, rfl⟩⟩

/-- The entries of a page are all there, or there is a first one that is absent. -/
theorem entries_cases (entries : List (Option α)) :
    (∃ values : List α, entries = values.map some) ∨
      ∃ (before : List α) (after : List (Option α)), entries = before.map some ++ none :: after := by
  induction entries with
  | nil => exact .inl ⟨[], rfl⟩
  | cons entry entries ih =>
    cases entry with
    | none => exact .inr ⟨[], entries, rfl⟩
    | some value =>
      rcases ih with ⟨values, rfl⟩ | ⟨before, after, rfl⟩
      · exact .inl ⟨value :: values, rfl⟩
      · exact .inr ⟨value :: before, after, rfl⟩

theorem markerAfter_eq {values : List α} (hp : page.entries = values.map some) :
    walk.markerAfter page = walk.continuation values page := by
  unfold markerAfter continuation
  rw [hp, List.getLast?_map]
  cases values.getLast? <;> rfl

theorem afterPage_of_last (hlast : walk.recursive = false ∨ page.truncated = false) :
    walk.afterPage page = .finished := by
  rcases hlast with h | h <;> simp [afterPage, h]

/-- Behind a truncated page a recursive walk fails, misses a marker, or fetches the next page. -/
theorem afterPage_of_truncated {values : List α} (hp : page.entries = values.map some) (hr : walk.recursive = true)
    (ht : page.truncated = true) :
    walk.afterPage page = match walk.continuation values page with
      | .error e => .failing e
      | .ok next => if walk.isBlank next then .ending (.storage .missingMarker) else .fetching next := by
  cases hc : walk.continuation values page with
  | error e => simp [afterPage, hr, ht, markerAfter_eq hp, hc]
  | ok next => simp [afterPage, hr, ht, markerAfter_eq hp, hc]

/-! ## The course and the producer -/

/-- A page without absent entries is fetched and handed over, and then the walk goes on behind it. -/
theorem brings_of_page {values : List α} {o₁ : Observed σ} (hf : walk.fetch m walk.delimiter o = (.ok page, o₁))
    (hp : page.entries = values.map some) (h : walk.producer.Brings (walk.afterPage page) o₁ stages items o') :
    walk.producer.Brings (.fetching m) o (.fetching m :: .emitting [] page :: stages) (values.map .value ++ items)
      o' := by
  refine brings_fetching_iff.2 ⟨_, rfl, ?_⟩
  simp only [fetchPage, hf, hp]
  exact (brings_emitting_iff values).2 ⟨stages, items, rfl, rfl, h⟩

/-- The producer brings forth what the course says, and works twice for each page at most. -/
theorem brings_of_course (h : walk.Course m o markers items o') :
    ∃ stages, walk.producer.Brings (.fetching m) o stages items o' ∧ stages.filterMap Stage.fetched? = markers ∧
      stages.length ≤ 2 * markers.length := by
  induction h with
  | @unfetched m o o₁ e hf =>
    refine ⟨[.fetching m], brings_fetching_iff.2 ⟨[], rfl, ?_⟩, rfl, by simp⟩
    cases hi : e.isInterrupt with
    | true =>
      simp only [fetchPage, hf, hi, if_true]
      exact brings_failing_iff.2 ⟨rfl, rfl, by simp [Observed.failed, hi]⟩
    | false =>
      simp only [fetchPage, hf, hi, Bool.false_eq_true, if_false]
      exact brings_ending_iff.2 ⟨rfl, by simp [Failure.reported, hi], rfl⟩
  | @absent m o o₁ page before after hf hp =>
    refine ⟨[.fetching m], brings_fetching_iff.2 ⟨[], rfl, ?_⟩, rfl, by simp⟩
    simp only [fetchPage, hf, hp]
    exact (brings_emitting_absent_iff before after).2 ⟨rfl, rfl, rfl⟩
  | @last m o o₁ page values hf hp hlast =>
    have hafter : walk.producer.Brings (walk.afterPage page) o₁ [] [] o₁ := by
      rw [afterPage_of_last hlast]
      exact brings_finished_iff.2 ⟨rfl, rfl, rfl⟩
    have hpage := brings_of_page hf hp hafter
    rw [List.append_nil] at hpage
    exact ⟨_, hpage, rfl, by simp⟩
  | @unnamed m o o₁ page values e hf hp hr ht hc =>
    have hafter : walk.producer.Brings (walk.afterPage page) o₁ [] e.reported (o₁.failed e) := by
      rw [afterPage_of_truncated hp hr ht, hc]
      exact brings_failing_iff.2 ⟨rfl, rfl, rfl⟩
    exact ⟨_, brings_of_page hf hp hafter, rfl, by simp⟩
  | @unmarked m next o o₁ page values hf hp hr ht hc hb =>
    have hafter : walk.producer.Brings (walk.afterPage page) o₁ [] [.failure (.storage .missingMarker)] o₁ := by
      simp only [afterPage_of_truncated hp hr ht, hc, hb, if_true]
      exact brings_ending_iff.2 ⟨rfl, rfl, rfl⟩
    exact ⟨_, brings_of_page hf hp hafter, rfl, by simp⟩
  | @more m next o o₁ o' page values markers items hf hp hr ht hc hb _ ih =>
    obtain ⟨stages, hbrings, hmarkers, hlength⟩ := ih
    have hafter : walk.producer.Brings (walk.afterPage page) o₁ stages items o' := by
      simpa only [afterPage_of_truncated hp hr ht, hc, hb, Bool.false_eq_true, if_false] using hbrings
    refine ⟨_, brings_of_page hf hp hafter, congrArg (m :: ·) hmarkers, ?_⟩
    simp only [List.length_cons]
    omega

/-- Whatever the producer of a walk brings forth is a course. -/
theorem course_of_brings (h : walk.producer.Brings (.fetching m) o stages items o') :
    walk.Course m o (stages.filterMap Stage.fetched?) items o' := by
  -- each page takes away two stages
  induction hn : stages.length using Nat.strongRecOn generalizing m o stages items with
  | ind n ih =>
    obtain ⟨rest, rfl, hb⟩ := brings_fetching_iff.1 h
    rcases hf : walk.fetch m walk.delimiter o with ⟨outcome, o₁⟩
    cases outcome with
    | error e =>
      cases hi : e.isInterrupt with
      | true =>
        simp only [fetchPage, hf, hi, if_true] at hb
        obtain ⟨rfl, rfl, rfl⟩ := brings_failing_iff.1 hb
        simpa [List.filterMap_cons, Observed.failed, hi] using Course.unfetched hf
      | false =>
        simp only [fetchPage, hf, hi, Bool.false_eq_true, if_false] at hb
        obtain ⟨rfl, rfl, rfl⟩ := brings_ending_iff.1 hb
        simpa [List.filterMap_cons, Failure.reported, hi] using Course.unfetched hf
    | ok page =>
      simp only [fetchPage, hf] at hb
      rcases entries_cases page.entries with ⟨values, hp⟩ | ⟨before, after, hp⟩
      · rw [hp] at hb
        obtain ⟨rest, items, rfl, rfl, hafter⟩ := (brings_emitting_iff values).1 hb
        by_cases hlast : walk.recursive = false ∨ page.truncated = false
        · rw [afterPage_of_last hlast] at hafter
          obtain ⟨rfl, rfl, rfl⟩ := brings_finished_iff.1 hafter
          simpa [List.filterMap_cons] using Course.last hf hp hlast
        · simp only [not_or, Bool.not_eq_false] at hlast
          obtain ⟨hr, ht⟩ := hlast
          rw [afterPage_of_truncated hp hr ht] at hafter
          cases hc : walk.continuation values page with
          | error e =>
            simp only [hc] at hafter
            obtain ⟨rfl, rfl, rfl⟩ := brings_failing_iff.1 hafter
            exact .unnamed hf hp hr ht hc
          | ok next =>
            cases hblank : walk.isBlank next with
            | true =>
              simp only [hc, hblank, if_true] at hafter
              obtain ⟨rfl, rfl, rfl⟩ := brings_ending_iff.1 hafter
              exact .unmarked hf hp hr ht hc hblank
            | false =>
              simp only [hc, hblank, Bool.false_eq_true, if_false] at hafter
              have hshorter : rest.length < n := by
                rw [← hn, List.length_cons, List.length_cons]
                omega
              show walk.Course m o (m :: rest.filterMap Stage.fetched?) _ _
              exact .more hf hp hr ht hc hblank (ih rest.length hshorter hafter rfl)
      · rw [hp] at hb
        obtain ⟨rfl, rfl, rfl⟩ := (brings_emitting_absent_iff before after).1 hb
        exact .absent hf hp

/-- A walk has one course at most. -/
theorem Course.unique {markers₁ : List μ} {items₁ : List (Item α)} {o₁ : Observed σ}
    (h : walk.Course m o markers items o') (h₁ : walk.Course m o markers₁ items₁ o₁) :
    markers₁ = markers ∧ items₁ = items ∧ o₁ = o' := by
  obtain ⟨stages, hb, rfl, -⟩ := brings_of_course h
  obtain ⟨stages₁, hb₁, rfl, -⟩ := brings_of_course h₁
  obtain ⟨rfl, rfl, rfl⟩ := hb.unique hb₁
  exact ⟨rfl, rfl, rfl⟩

end

/-! ## Reading a walk to its end -/

/-- Somebody reads the walk to its end and receives these items, and nobody else changes the state meanwhile. -/
def Reads (walk : Walk σ μ α) (o : Observed σ) (items : List (Item α)) (o' : Observed σ) : Prop :=
  ∃ es, Complete walk.producer (.fetching walk.start) o es o' ∧ received es = items

section

variable {walk : Walk σ μ α} {o o' o₁ : Observed σ} {markers : List μ} {items items₁ : List (Item α)}

theorem Course.reads (h : walk.Course walk.start o markers items o') : walk.Reads o items o' := by
  obtain ⟨stages, hb, -, -⟩ := brings_of_course h
  exact exists_complete hb

/-- Whoever reads a walk that has a course receives the items of the course. -/
theorem Course.eq_of_reads (h : walk.Course walk.start o markers items o') (hr : walk.Reads o items₁ o₁) :
    items₁ = items ∧ o₁ = o' := by
  obtain ⟨es, hes, rfl⟩ := hr
  exact (h.unique (course_of_brings hes.brings)).2

end

/-! ## Walks through pages -/

/-- The markers from which pages have been fetched. -/
def fetchedFrom (es : List (Event σ (Stage μ α) α)) : List μ :=
  (workedAt es).filterMap Stage.fetched?

/-- **What a walk through pages delivers.** A consumer who comes to the end of the feed has received the items of the
course that begins at the empty marker, and the pages of that course have been fetched, in its states and no others.
Conversely, when there is a course, the feed can be drained and every complete run shows that course. A course that is
not recursive has one page, and no course has more than one failure, which is its last item. -/
theorem pages_course (recursive : Bool) (key : α → Except Failure String)
    (fetch : (marker delimiter : String) → Observed σ → Except Failure (Page String (Option α)) × Observed σ)
    (o o' : Observed σ) :
    let walk := pages recursive key fetch
    walk.delimiter = (if recursive then "" else "/") ∧
    (∀ es, Complete walk.producer (.fetching "") o es o' → walk.Course "" o (fetchedFrom es) (received es) o') ∧
    ∀ markers items, walk.Course "" o markers items o' →
      (∀ moves most, 2 * markers.length + items.length + 2 ≤ moves → items.length < most →
        ∃ f, walk.feed.drain walk.producer moves most o = (items, f, o') ∧ f.closed = true ∧ f.alive = false) ∧
      (∀ es o₁, Complete walk.producer (.fetching "") o es o₁ →
        fetchedFrom es = markers ∧ received es = items ∧ o₁ = o') ∧
      (recursive = false → markers = [""]) ∧
      ∃ (values : List α) (rest : List (Item α)), items = values.map .value ++ rest ∧
        (rest = [] ∨ ∃ e, rest = [.failure e]) := by
  intro walk
  refine ⟨rfl, fun es h => course_of_brings h.brings, fun markers items h => ⟨?_, ?_, h.markers_eq, h.items_eq⟩⟩
  · intro moves most hm hn
    obtain ⟨stages, hb, -, hlength⟩ := brings_of_course h
    have hmoves : stages.length + items.length + 2 ≤ moves := by omega
    obtain ⟨f, hdrain, hw, hc⟩ := drain_of_brings hb hmoves hn
    exact ⟨f, hdrain, hc, alive_eq_false hw⟩
  · intro es o₁ hes
    exact h.unique (course_of_brings hes.brings)

/-- A page without entries leads on from its own marker; the second page ends the walk. -/
theorem pages_course_of_two_pages :
    let fetch (marker _ : String) (o : Observed Unit) : Except Failure (Page String (Option Nat)) × Observed Unit :=
      (.ok (if marker = "" then ⟨[], true, "m"⟩ else ⟨[some 1], false, ""⟩), o)
    let walk := pages true (fun _ => .ok "") fetch
    let es : List (Event Unit (Stage String Nat) Nat) := [
      .worked ⟨(), [], {}⟩ (.fetching "") (.emitting [] ⟨[], true, "m"⟩),
      .worked ⟨(), [], {}⟩ (.emitting [] ⟨[], true, "m"⟩) (.fetching "m"),
      .worked ⟨(), [], {}⟩ (.fetching "m") (.emitting [some 1] ⟨[some 1], false, ""⟩), .answered (.value 1) true,
      .took (.item (.value 1)), .worked ⟨(), [], {}⟩ (.emitting [] ⟨[some 1], false, ""⟩) .finished, .passed, .passed,
      .took .stopped]
    Complete walk.producer (.fetching "") ⟨(), [], {}⟩ es ⟨(), [], {}⟩ ∧
      walk.Course "" ⟨(), [], {}⟩ (fetchedFrom es) (received es) ⟨(), [], {}⟩ ∧
      ∃ f, walk.feed.drain walk.producer 7 2 ⟨(), [], {}⟩ = (received es, f, ⟨(), [], {}⟩) ∧ f.closed = true := by
  intro fetch walk es
  have hcomplete : Complete walk.producer (.fetching "") ⟨(), [], {}⟩ es ⟨(), [], {}⟩ :=
    ⟨⟨_, .cons (.move rfl rfl) <| .cons (.move rfl rfl) <| .cons (.move rfl rfl) <| .cons (.move rfl rfl) <|
      .cons (.take rfl) <| .cons (.move rfl rfl) <| .cons (.move rfl rfl) <| .cons (.move rfl rfl) <|
      .cons (.take rfl) .nil⟩, by simp [es], by simp [es]⟩
  obtain ⟨-, hcourse, hdrain⟩ := pages_course true (fun _ => .ok "") fetch ⟨(), [], {}⟩ ⟨(), [], {}⟩
  have hes := hcourse es hcomplete
  obtain ⟨f, hf, hc, -⟩ := (hdrain _ _ hes).1 7 2 (by decide) (by decide)
  exact ⟨hcomplete, hes, f, hf, hc⟩

end BucketClient.Walk
