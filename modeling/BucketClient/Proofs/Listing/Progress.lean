import BucketClient.Proofs.Listing.Passage

/-!
# Whether a walk makes progress

A walk goes on from page to page as long as pages lead on, and it does not look back: only a blank marker ends a
recursive walk behind a truncated page, and a marker from which a page has been fetched already does not.

* `LeadsOnForever`: the pages of a walk never come to an end. Just then nobody can read it to its end
  (`exists_complete_iff`).
* `IdlesForever`: the same with pages that have no entries. A closed feed, which a walk notices only when it hands
  something over, just then leaves a producer behind that fetches forever (`ends_iff`).
* `Passes.pairwise`: how each marker stands to those before it carries over to the fetches of every run. A service whose
  answers lead ahead in some order is never asked twice for the same marker.
* `makes_progress_iff` puts this together.
-/

namespace BucketClient.Walk

open Feed

variable {σ μ α : Type}

/-- Undisturbed, the pages of a walk lead on from a marker, as many as one likes. -/
def LeadsOnForever (walk : Walk σ μ α) (m : μ) (o : Observed σ) : Prop :=
  ∀ n, ∃ fetched values m' o', walk.Passes undisturbed m o fetched values m' o' ∧ fetched.length = n

/-- Undisturbed, pages without entries lead on from a marker, as many as one likes. -/
def IdlesForever (walk : Walk σ μ α) (m : μ) (o : Observed σ) : Prop :=
  ∀ n, ∃ fetched m' o', walk.Passes undisturbed m o fetched [] m' o' ∧ fetched.length = n

section

variable {walk : Walk σ μ α} {outside : Observed σ → Observed σ → Prop} {m m₀ m' next : μ} {o o₀ o₁ o' : Observed σ}
  {outcome : Except Failure (Page μ (Option α))} {page : Page μ (Option α)} {fetched : List (μ × Observed σ)}
  {values more : List α} {markers markers₁ : List μ} {items : List (Item α)} {es : List (Event σ (Stage μ α) α)}
  {f f' : Feed (Stage μ α) α}

/-! ## The pages that a walk passes -/

theorem answer_of_fetch (hf : walk.fetch m walk.delimiter o = (outcome, o₁)) :
    walk.answer m o = outcome ∧ walk.stateAfter m o = o₁ := by
  simp [answer, stateAfter, hf]

/-- A first page, and then the others. -/
theorem Passes.cons (hl : walk.LeadsOn (walk.answer m₀ o₀) more next)
    (h : walk.Passes undisturbed next (walk.stateAfter m₀ o₀) fetched values m o) :
    walk.Passes undisturbed m₀ o₀ ((m₀, o₀) :: fetched) (more ++ values) m o := by
  induction h with
  | start => simpa using Passes.page .start hl
  | page _ hl' ih =>
    have hpage := ih.page hl'
    rwa [List.append_assoc] at hpage
  | disturbed _ ho => exact ho.elim

/-- A fetch that has been passed was made from the marker that the walk had come to. -/
theorem Passes.of_append {before after : List (μ × Observed σ)}
    (h : walk.Passes outside m₀ o₀ (before ++ (m, o) :: after) values m' o') :
    ∃ values₁, walk.Passes outside m₀ o₀ before values₁ m o := by
  generalize hall : before ++ (m, o) :: after = all at h
  induction h generalizing after with
  | start => simp at hall
  | disturbed _ _ ih => exact ih hall
  | @page fetched values more m₁ next o₁ h hl ih =>
    rcases List.eq_nil_or_concat after with rfl | ⟨after, last, rfl⟩
    · obtain ⟨rfl, hlast⟩ := List.append_inj' hall rfl
      cases hlast
      exact ⟨values, h⟩
    · rw [List.concat_eq_append, ← List.cons_append, ← List.append_assoc] at hall
      exact ih (List.append_inj' hall rfl).1

/-! ## The order of the markers -/

/-- How the marker that a walk has come to stands to the markers before it, each marker stands to those before it. -/
theorem Passes.pairwise {R : μ → μ → Prop}
    (hR : ∀ {fetched values m o}, walk.Passes outside m₀ o₀ fetched values m o → ∀ k ∈ fetched.map (·.1), R k m)
    (h : walk.Passes outside m₀ o₀ fetched values m o) : (fetched.map (·.1) ++ [m]).Pairwise R := by
  induction h with
  | start => simp
  | disturbed _ _ ih => exact ih
  | page h hl ih =>
    rw [List.map_append, List.pairwise_append]
    refine ⟨ih, List.pairwise_singleton R _, fun k hk last hlast => ?_⟩
    obtain rfl := List.mem_singleton.1 hlast
    exact hR (h.page hl) k (by simpa using hk)

theorem pairwise_fetchedFrom {R : μ → μ → Prop}
    (hR : ∀ {fetched values m o'}, walk.Passes outside walk.start o fetched values m o' →
      ∀ k ∈ fetched.map (·.1), R k m)
    (h : Runs walk.producer outside walk.feed o es f o') : (fetchedFrom es).Pairwise R := by
  have hstands := Stands.of_runs h
  obtain ⟨worker, slot, closed, answers⟩ := f
  rw [fetchedFrom_eq]
  cases hstands with
  | fetching hp => exact (List.pairwise_append.1 (hp.pairwise hR)).1
  | emitting hp hf =>
    rw [hf, List.map_append]
    exact hp.pairwise hR
  | halted hp hf =>
    rw [hf, List.map_append]
    exact hp.pairwise hR

/-- When all answers lead ahead, a walk is ahead of all markers from which it has fetched. -/
theorem Passes.ahead {ahead : μ → μ → Prop} (htrans : ∀ a b c, ahead a b → ahead b c → ahead a c)
    (hahead : ∀ m o values next, walk.LeadsOn (walk.answer m o) values next → ahead m next)
    (h : walk.Passes outside m₀ o₀ fetched values m o) : ∀ k ∈ fetched.map (·.1), ahead k m := by
  induction h with
  | start => exact List.forall_mem_nil _
  | disturbed _ _ ih => exact ih
  | page _ hl ih =>
    rw [List.map_append]
    refine List.forall_mem_append.2 ⟨fun k hk => htrans _ _ _ (ih k hk) (hahead _ _ _ _ hl), ?_⟩
    exact List.forall_mem_singleton.2 (hahead _ _ _ _ hl)

/-! ## A run through given pages -/

/-- The values of a page are handed over and received one by one. -/
theorem exists_runs_emitting (walk : Walk σ μ α) (o : Observed σ) (values : List α) (page : Page μ (Option α))
    (answers : List Bool) :
    ∃ es answers', Runs walk.producer undisturbed
      ⟨.running (.emitting (values.map some) page), none, false, answers, {}⟩ o es
      ⟨.running (.emitting [] page), none, false, answers', {}⟩ o ∧ fetchedAt es = [] := by
  induction values generalizing answers with
  | nil => exact ⟨[], answers, .nil, rfl⟩
  | cons value values ih =>
    obtain ⟨es, answers', hes, hf⟩ := ih (answers ++ [true])
    refine ⟨.answered (.value value) true :: .took (.item (.value value)) :: es, answers', ?_, hf⟩
    exact .cons (.move rfl rfl) (.cons (.take rfl) hes)

/-- Pages that lead on are fetched in some run, at the end of which the walk is about to fetch from its marker. -/
theorem exists_runs_of_passes (h : walk.Passes undisturbed walk.start o fetched values m o') :
    ∃ es answers, Runs walk.producer undisturbed walk.feed o es ⟨.running (.fetching m), none, false, answers, {}⟩ o' ∧
      fetchedAt es = fetched := by
  induction h with
  | start => exact ⟨[], [], .nil, rfl⟩
  | disturbed _ ho => exact ho.elim
  | @page fetched values more m next o _ hl ih =>
    obtain ⟨es, answers, hes, hfetched⟩ := ih
    obtain ⟨page, hanswer, hp, hafter⟩ := hl.exists_page
    have hfetch := fetchPage_of_answer hanswer
    rw [hp] at hfetch
    obtain ⟨fs, answers', hfs, hnone⟩ := exists_runs_emitting walk (walk.stateAfter m o) more page answers
    -- the page is fetched, handed over and left behind
    refine ⟨es ++ (.worked o (.fetching m) (.emitting (more.map some) page) ::
      (fs ++ [.worked (walk.stateAfter m o) (.emitting [] page) (.fetching next)])), answers', ?_, ?_⟩
    · refine hes.trans (.cons (.move ?_ ?_) (hfs.trans (.cons (.move ?_ ?_) .nil)))
      · simp [advance, producer, hfetch]
      · simp [event, producer, hfetch]
      · simp [advance, producer, hafter]
      · simp [event, producer, hafter]
    · rw [fetchedAt_append, fetchedAt_cons, fetchedAt_concat, hfetched, hnone]
      simp [fetch?]

/-! ## Walks that can be read to their end -/

/-- A course leads on to another page, or it has come to its last one. -/
theorem Course.cases (h : walk.Course m o markers items o') :
    (∃ values next markers' items', walk.LeadsOn (walk.answer m o) values next ∧ markers = m :: markers' ∧
      items = values.map .value ++ items' ∧ walk.Course next (walk.stateAfter m o) markers' items' o') ∨
    (markers = [m] ∧ ∀ values next, ¬walk.LeadsOn (walk.answer m o) values next) := by
  cases h with
  | unfetched hf =>
    rw [(answer_of_fetch hf).1]
    exact .inr ⟨rfl, fun values next hl => by cases hl⟩
  | absent hf hp =>
    rw [(answer_of_fetch hf).1]
    exact .inr ⟨rfl, fun values next => not_leadsOn_of_absent (by simp [hp])⟩
  | last hf hp hlast =>
    rw [(answer_of_fetch hf).1]
    refine .inr ⟨rfl, fun values next hl => ?_⟩
    cases hl with
    | page hr _ ht => simp [hr, ht] at hlast
  | unnamed hf hp hr ht hc =>
    rw [(answer_of_fetch hf).1]
    refine .inr ⟨rfl, fun values next hl => ?_⟩
    obtain rfl := hl.values_eq hp
    cases hl with
    | page _ _ _ hc' => rw [hc] at hc'; cases hc'
  | unmarked hf hp hr ht hc hb =>
    rw [(answer_of_fetch hf).1]
    refine .inr ⟨rfl, fun values next hl => ?_⟩
    obtain rfl := hl.values_eq hp
    cases hl with
    | page _ _ _ hc' hb' =>
      rw [hc] at hc'
      cases hc'
      rw [hb] at hb'
      cases hb'
  | more hf hp hr ht hc hb h =>
    obtain ⟨hanswer, rfl⟩ := answer_of_fetch hf
    rw [hanswer]
    exact .inl ⟨_, _, _, _, .page hr hp ht hc hb, rfl, rfl, h⟩

/-- A page that leads on comes before the course behind it. -/
theorem LeadsOn.course (hl : walk.LeadsOn (walk.answer m o) values next)
    (h : walk.Course next (walk.stateAfter m o) markers items o') :
    walk.Course m o (m :: markers) (values.map .value ++ items) o' := by
  generalize hanswer : walk.answer m o = outcome at hl
  cases hl with
  | page hr hp ht hc hb => exact .more (fetch_of_answer hanswer) hp hr ht hc hb h

/-- The pages that a walk has passed come before the course behind them. -/
theorem Passes.course (hp : walk.Passes undisturbed m₀ o₀ fetched values m o)
    (h : walk.Course m o markers items o') :
    walk.Course m₀ o₀ (fetched.map (·.1) ++ markers) (values.map .value ++ items) o' := by
  induction hp generalizing markers items with
  | start => exact h
  | disturbed _ ho => exact ho.elim
  | page _ hl ih => simpa using ih (hl.course h)

/-- Behind the pages that a walk has passed there is the rest of its course. -/
theorem Course.of_passes (h : walk.Course m₀ o₀ markers items o')
    (hp : walk.Passes undisturbed m₀ o₀ fetched values m o) :
    ∃ markers' items', markers = fetched.map (·.1) ++ markers' ∧ walk.Course m o markers' items' o' := by
  induction hp with
  | start => exact ⟨markers, items, rfl, h⟩
  | disturbed _ ho => exact ho.elim
  | page _ hl ih =>
    obtain ⟨markers', items', rfl, h'⟩ := ih
    rcases h'.cases with ⟨values', next', rest, items', hl', rfl, -, h''⟩ | ⟨-, hnot⟩
    · obtain ⟨-, rfl⟩ := hl.unique hl'
      exact ⟨rest, items', by simp, h''⟩
    · exact absurd hl (hnot _ _)

/-- A walk that does not lead on has come to its end. -/
theorem exists_course_of_not_leadsOn (h : ∀ values next, ¬walk.LeadsOn (walk.answer m o) values next) :
    ∃ items o', walk.Course m o [m] items o' := by
  cases hanswer : walk.answer m o with
  | error e => exact ⟨_, _, .unfetched (fetch_of_answer hanswer)⟩
  | ok page =>
    rw [hanswer] at h
    have hf := fetch_of_answer hanswer
    rcases entries_cases page.entries with ⟨values, hp⟩ | ⟨before, after, hp⟩
    · by_cases hlast : walk.recursive = false ∨ page.truncated = false
      · exact ⟨_, _, .last hf hp hlast⟩
      · simp only [not_or, Bool.not_eq_false] at hlast
        obtain ⟨hr, ht⟩ := hlast
        cases hc : walk.continuation values page with
        | error e => exact ⟨_, _, .unnamed hf hp hr ht hc⟩
        | ok next =>
          cases hb : walk.isBlank next with
          | true => exact ⟨_, _, .unmarked hf hp hr ht hc hb⟩
          | false => exact absurd (.page hr hp ht hc hb) (h values next)
    · exact ⟨_, _, .absent hf hp⟩

/-- A walk that cannot pass so many pages has a course. -/
theorem exists_course_of_bound (n : Nat)
    (h : ∀ fetched values m' o', walk.Passes undisturbed m o fetched values m' o' → fetched.length ≠ n) :
    ∃ markers items o', walk.Course m o markers items o' := by
  induction n generalizing m o with
  | zero => exact absurd rfl (h [] [] m o .start)
  | succ n ih =>
    by_cases hl : ∃ values next, walk.LeadsOn (walk.answer m o) values next
    · obtain ⟨values, next, hl⟩ := hl
      obtain ⟨markers, items, o', hcourse⟩ := ih fun fetched values' m' o' hp hn =>
        h _ _ _ _ (hp.cons hl) (by simp [hn])
      exact ⟨_, _, _, hl.course hcourse⟩
    · simp only [not_exists] at hl
      obtain ⟨items, o', hcourse⟩ := exists_course_of_not_leadsOn hl
      exact ⟨_, _, _, hcourse⟩

/-- There is a course unless the pages lead on forever. -/
theorem exists_course_iff : (∃ markers items o', walk.Course m o markers items o') ↔ ¬walk.LeadsOnForever m o := by
  constructor
  · rintro ⟨markers, items, o', h⟩ hforever
    obtain ⟨fetched, values, m', o₁, hp, hn⟩ := hforever markers.length
    obtain ⟨markers', items', rfl, h'⟩ := h.of_passes hp
    -- as many pages as there are markers leave none for the rest
    obtain rfl : markers' = [] := by
      rw [List.length_append, List.length_map] at hn
      exact List.length_eq_zero_iff.1 (by omega)
    rcases h'.cases with ⟨_, _, _, _, _, hnil, -⟩ | ⟨hnil, -⟩ <;> cases hnil
  · intro h
    obtain ⟨n, h⟩ := Classical.not_forall.1 h
    exact exists_course_of_bound n fun fetched values m' o' hp hn => h ⟨fetched, values, m', o', hp, hn⟩

/-- A walk can be read to its end unless its pages lead on forever. -/
theorem exists_complete_iff :
    (∃ es o', Complete walk.producer (.fetching walk.start) o es o') ↔ ¬walk.LeadsOnForever walk.start o := by
  rw [← exists_course_iff]
  constructor
  · rintro ⟨es, o', h⟩
    exact ⟨_, _, _, course_of_brings h.brings⟩
  · rintro ⟨markers, items, o', h⟩
    obtain ⟨es, h, -⟩ := h.reads
    exact ⟨es, o', h⟩

/-! ## Services without a memory -/

/-- When the answers depend on nothing but the marker, so do the markers of a course. -/
theorem Course.markers_unique (hs : ∀ m o o₁, walk.answer m o = walk.answer m o₁) {o₁ o₁' : Observed σ}
    {items₁ : List (Item α)} (h : walk.Course m o markers items o') (h₁ : walk.Course m o₁ markers₁ items₁ o₁') :
    markers = markers₁ := by
  induction markers generalizing m o items o₁ markers₁ items₁ with
  | nil => rcases h.cases with ⟨_, _, _, _, _, hnil, -⟩ | ⟨hnil, -⟩ <;> cases hnil
  | cons first markers ih =>
    have hsame := hs m o o₁
    rcases h.cases with ⟨values, next, rest, items', hl, heq, -, hrest⟩ | ⟨heq, hnot⟩
    · rcases h₁.cases with ⟨values₁, next₁, rest₁, items₁', hl₁, rfl, -, hrest₁⟩ | ⟨-, hnot₁⟩
      · rw [← hsame] at hl₁
        obtain ⟨-, rfl⟩ := hl.unique hl₁
        obtain ⟨rfl, rfl⟩ := List.cons.inj heq
        rw [ih hrest hrest₁]
      · rw [hsame] at hl
        exact absurd hl (hnot₁ _ _)
    · rcases h₁.cases with ⟨values₁, next₁, rest₁, items₁', hl₁, -, -, -⟩ | ⟨rfl, -⟩
      · rw [← hsame] at hl₁
        exact absurd hl₁ (hnot _ _)
      · exact heq

/-- A service without a memory that leads a walk back to a marker leads it on forever. -/
theorem leadsOnForever_of_mem (hs : ∀ m o o₁, walk.answer m o = walk.answer m o₁)
    (hp : walk.Passes undisturbed m₀ o₀ fetched values m o) (hm : m ∈ fetched.map (·.1)) :
    walk.LeadsOnForever m₀ o₀ := by
  refine Classical.byContradiction fun hnot => ?_
  obtain ⟨markers, items, o', h⟩ := exists_course_iff.2 hnot
  obtain ⟨⟨_, o₁⟩, hmem, rfl⟩ := List.mem_map.1 hm
  obtain ⟨before, after, rfl⟩ := List.append_of_mem hmem
  obtain ⟨values₁, hbefore⟩ := hp.of_append
  -- the course behind the first visit would be as long as the one behind the second
  obtain ⟨markers₁, items₁, rfl, h₁⟩ := h.of_passes hbefore
  obtain ⟨markers₂, items₂, heq, h₂⟩ := h.of_passes hp
  have hlength := congrArg List.length heq
  rw [h₁.markers_unique hs h₂] at hlength
  simp only [List.length_append, List.length_map, List.length_cons] at hlength
  omega

/-! ## Closed feeds -/

theorem ends_of_finishing (hc : f.closed = true) (hw : f.worker = .finishing) : f.Ends walk.producer o := by
  obtain ⟨f', hput, -, hw'⟩ := exists_put_of_closed .finish .ended hc
  have hadvance : f.advance walk.producer o = some (f', o) := by simp [advance, hw, hput]
  exact (ends_iff_of_advance hadvance).2 ⟨0, alive_eq_false hw'⟩

theorem ends_of_reporting {e : Failure} (hc : f.closed = true) (hw : f.worker = .reporting e) :
    f.Ends walk.producer o := by
  obtain ⟨f', hput, hc', hw'⟩ := exists_put_of_closed (.item (.failure e)) .finishing hc
  have hadvance : f.advance walk.producer o = some (f', o) := by simp [advance, hw, hput]
  exact (ends_iff_of_advance hadvance).2 (ends_of_finishing hc' hw')

theorem ends_of_finished (hc : f.closed = true) (hw : f.worker = .running .finished) : f.Ends walk.producer o := by
  have hadvance : f.advance walk.producer o = some ({ f with worker := .finishing }, o) := by
    simp [advance, hw, producer]
  exact (ends_iff_of_advance hadvance).2 (ends_of_finishing hc rfl)

/-- A halted producer is not held up by a closed feed. -/
theorem ends_of_halted (hc : f.closed = true) (hw : Halted f.worker) : f.Ends walk.producer o := by
  generalize hworker : f.worker = worker at hw
  cases hw with
  | @ending e =>
    have hoffer : walk.producer (.ending e) = .offer (.failure e) fun _ => .finished := rfl
    have hadvance := advance_of_closed hc hworker hoffer o
    exact (ends_iff_of_advance hadvance).2 (ends_of_finished hc rfl)
  | @failing e =>
    cases hi : e.isInterrupt with
    | true =>
      have hadvance : f.advance walk.producer o = some ({ f with worker := .finishing }, o) := by
        simp [advance, hworker, producer, hi]
      exact (ends_iff_of_advance hadvance).2 (ends_of_finishing hc rfl)
    | false =>
      have hadvance : f.advance walk.producer o =
          some ({ f with worker := .reporting e }, o.log (failureRecord e)) := by
        simp [advance, hworker, producer, hi]
      exact (ends_iff_of_advance hadvance).2 (ends_of_reporting hc rfl)
  | finished => exact ends_of_finished hc hworker
  | reporting => exact ends_of_reporting hc hworker
  | finishing => exact ends_of_finishing hc hworker
  | ended => exact ⟨0, alive_eq_false hworker⟩

theorem afterPage_cases (walk : Walk σ μ α) (page : Page μ (Option α)) :
    Halted (.running (walk.afterPage page)) ∨ ∃ next, walk.afterPage page = .fetching next := by
  unfold afterPage
  split
  · split
    · exact .inl .failing
    · split
      · exact .inl .ending
      · exact .inr ⟨_, rfl⟩
  · exact .inl .finished

section

variable {slot : Option (Signal α)} {closed : Bool} {answers : List Bool} {begun : Begun}

/-- A page without entries that leads on takes two moves, and nobody notices. -/
theorem settle_of_leadsOn (hl : walk.LeadsOn (walk.answer m o) [] next) :
    settle walk.producer 2 ⟨.running (.fetching m), slot, closed, answers, begun⟩ o =
      (⟨.running (.fetching next), slot, closed, answers, begun⟩, walk.stateAfter m o) := by
  obtain ⟨page, hanswer, hp, hafter⟩ := hl.exists_page
  have hfetch := fetchPage_of_answer hanswer
  rw [hp] at hfetch
  simp [settle, advance, producer, hfetch, hafter]

theorem settle_of_passes (hp : walk.Passes undisturbed m o fetched values m' o') (hv : values = []) :
    settle walk.producer (2 * fetched.length) ⟨.running (.fetching m), slot, closed, answers, begun⟩ o =
      (⟨.running (.fetching m'), slot, closed, answers, begun⟩, o') := by
  induction hp with
  | start => rfl
  | disturbed _ ho => exact ho.elim
  | page _ hl ih =>
    obtain ⟨hvalues, rfl⟩ := List.append_eq_nil_iff.1 hv
    rw [List.length_append, List.length_singleton, Nat.mul_add, settle_add, ih hvalues]
    exact settle_of_leadsOn hl

/-- A walk that idles forever does not come to its end, whether its feed is closed or not. -/
theorem not_ends_of_idlesForever (h : walk.IdlesForever m o) :
    ¬Ends walk.producer ⟨.running (.fetching m), slot, closed, answers, begun⟩ o := by
  rintro ⟨moves, hend⟩
  obtain ⟨fetched, m', o', hp, rfl⟩ := h moves
  -- the end would have been there before the pages without entries were left behind
  have hpassed : settle walk.producer (2 * fetched.length)
      ⟨.running (.fetching m), slot, closed, answers, begun⟩ o = _ := settle_of_passes hp rfl
  rw [Nat.two_mul, settle_add, settle_of_ended _ _ (ended_of_alive hend)] at hpassed
  cases hend.symm.trans (congrArg (fun s => s.1.alive) hpassed)

/-- The producing side, left to itself, comes to no marker behind which the walk idles forever. -/
def NeverIdles (walk : Walk σ μ α) (f : Feed (Stage μ α) α) (o : Observed σ) : Prop :=
  ∀ moves m, (f.settle walk.producer moves o).1.worker = .running (.fetching m) →
    ¬walk.IdlesForever m (f.settle walk.producer moves o).2

theorem NeverIdles.advance (h : walk.NeverIdles f o) (ha : f.advance walk.producer o = some (f', o')) :
    walk.NeverIdles f' o' := by
  intro moves m hw
  have hlater := h (moves + 1) m
  rw [settle, ha] at hlater
  exact hlater hw

section

-- feeds that come to an end from the first entry of a page on, for what has begun at them
variable (hcons : ∀ {entry left page slot answers o},
  walk.NeverIdles ⟨.running (.emitting (entry :: left) page), slot, true, answers, begun⟩ o →
    Ends walk.producer ⟨.running (.emitting (entry :: left) page), slot, true, answers, begun⟩ o)

include hcons

theorem ends_of_bound (n : Nat)
    (h : ∀ fetched m' o', walk.Passes undisturbed m o fetched [] m' o' → fetched.length ≠ n)
    (hi : walk.NeverIdles ⟨.running (.fetching m), slot, true, answers, begun⟩ o) :
    Ends walk.producer ⟨.running (.fetching m), slot, true, answers, begun⟩ o := by
  induction n generalizing m o with
  | zero => exact absurd rfl (h [] m o .start)
  | succ n ih =>
    have hfetch : advance walk.producer ⟨.running (.fetching m), slot, true, answers, begun⟩ o =
        some (⟨.running (walk.fetchPage m o).1, slot, true, answers, begun⟩, (walk.fetchPage m o).2) := rfl
    have hi := hi.advance hfetch
    rw [ends_iff_of_advance hfetch]
    cases hanswer : walk.answer m o with
    | error e => exact ends_of_halted rfl (halted_fetchPage hanswer)
    | ok page =>
      rw [fetchPage_of_answer hanswer] at hi ⊢
      cases hp : page.entries with
      | cons entry left =>
        rw [hp] at hi
        exact hcons hi
      | nil =>
        rw [hp] at hi
        have hi := hi.advance rfl
        rw [ends_iff_of_advance rfl]
        have hvalues : page.entries = ([] : List α).map some := hp
        by_cases hl : ∃ next, walk.LeadsOn (.ok page) [] next
        · obtain ⟨next, hl⟩ := hl
          rw [hl.afterPage_eq] at hi ⊢
          rw [← hanswer] at hl
          exact ih (fun fetched m' o' hp hn => h _ _ _ (hp.cons hl) (by simp [hn])) hi
        · exact ends_of_halted rfl (halted_afterPage hvalues (not_exists.1 hl))

theorem ends_of_fetching (hi : walk.NeverIdles ⟨.running (.fetching m), slot, true, answers, begun⟩ o) :
    Ends walk.producer ⟨.running (.fetching m), slot, true, answers, begun⟩ o := by
  obtain ⟨n, h⟩ := Classical.not_forall.1 (hi 0 m rfl)
  exact ends_of_bound hcons n (fun fetched m' o' hp hn => h ⟨fetched, m', o', hp, hn⟩) hi

theorem ends_of_neverIdles_of_cons {worker : Worker (Stage μ α)}
    (hi : walk.NeverIdles ⟨worker, slot, true, answers, begun⟩ o) :
    Ends walk.producer ⟨worker, slot, true, answers, begun⟩ o := by
  cases worker with
  | running stage =>
    cases stage with
    | fetching m => exact ends_of_fetching hcons hi
    | emitting left page =>
      cases left with
      | nil =>
        have hi := hi.advance rfl
        rw [ends_iff_of_advance rfl]
        rcases walk.afterPage_cases page with hw | ⟨next, hnext⟩
        · exact ends_of_halted rfl hw
        · rw [hnext] at hi ⊢
          exact ends_of_fetching hcons hi
      | cons entry left => exact hcons hi
    | ending => exact ends_of_halted rfl .ending
    | failing => exact ends_of_halted rfl .failing
    | finished => exact ends_of_halted rfl .finished
  | reporting => exact ends_of_halted rfl .reporting
  | finishing => exact ends_of_halted rfl .finishing
  | ended => exact ends_of_halted rfl .ended

end

/-- With the first entry of a page a closed feed is noticed, if no offer has begun before. -/
theorem ends_emitting_cons (hb : begun.offer = false) (entry : Option α) (left : List (Option α)) :
    Ends walk.producer ⟨.running (.emitting (entry :: left) page), slot, true, answers, begun⟩ o := by
  cases entry with
  | none => exact (ends_iff_of_advance rfl).2 (ends_of_halted rfl .reporting)
  | some value =>
    have hoffer : walk.producer (.emitting (some value :: left) page) = _ := producer_emitting value left page
    have hadvance := advance_of_closed (f := ⟨_, slot, true, answers, begun⟩) rfl rfl hoffer o
    refine (ends_iff_of_advance hadvance).2 (ends_of_finished rfl ?_)
    simp [admits, hb]

/-- An offer that has begun may be accepted, and the producing side then goes on to the next one. -/
theorem ends_emitting_cons_of_neverIdles (entry : Option α) (left : List (Option α))
    (hi : walk.NeverIdles ⟨.running (.emitting (entry :: left) page), slot, true, answers, begun⟩ o) :
    Ends walk.producer ⟨.running (.emitting (entry :: left) page), slot, true, answers, begun⟩ o := by
  cases entry with
  | none => exact (ends_iff_of_advance rfl).2 (ends_of_halted rfl .reporting)
  | some value =>
    have hoffer : walk.producer (.emitting (some value :: left) page) = _ := producer_emitting value left page
    have hadvance := advance_of_closed (f := ⟨_, slot, true, answers, begun⟩) rfl rfl hoffer o
    exact (ends_iff_of_advance hadvance).2
      (ends_of_neverIdles_of_cons (fun _ => ends_emitting_cons rfl _ _) (hi.advance hadvance))

end

/-- The producing side of a closed feed comes to its end unless the walk comes to a marker behind which it idles
forever. -/
theorem ends_iff (hc : f.closed = true) : f.Ends walk.producer o ↔
    ¬∃ moves m, (f.settle walk.producer moves o).1.worker = .running (.fetching m) ∧
      walk.IdlesForever m (f.settle walk.producer moves o).2 := by
  constructor
  · rintro hend ⟨moves, m, hw, hidles⟩
    rw [← ends_settle_iff moves] at hend
    generalize f.settle walk.producer moves o = settled at hend hw hidles
    obtain ⟨⟨worker, slot, closed, answers, begun⟩, o₁⟩ := settled
    obtain rfl : worker = .running (.fetching m) := hw
    exact not_ends_of_idlesForever hidles hend
  · intro h
    obtain ⟨worker, slot, closed, answers, begun⟩ := f
    obtain rfl : closed = true := hc
    exact ends_of_neverIdles_of_cons (ends_emitting_cons_of_neverIdles _ _) fun moves m hw hidles =>
      h ⟨moves, m, hw, hidles⟩

/-! ## Progress -/

/-- A page without entries that leads back to its own marker. -/
theorem idlesForever_of_leadsOn (hl : ∀ o, walk.LeadsOn (walk.answer m o) [] m) : walk.IdlesForever m o := by
  intro n
  induction n generalizing o with
  | zero => exact ⟨[], m, o, .start, rfl⟩
  | succ n ih =>
    obtain ⟨fetched, m', o', hp, hn⟩ := ih (o := walk.stateAfter m o)
    exact ⟨(m, o) :: fetched, m', o', hp.cons (hl o), by simp [hn]⟩

/-- Behind a truncated page without a marker a walk ends with one failure. -/
theorem Passes.course_of_blank (hp : walk.Passes undisturbed m₀ o₀ fetched values m o)
    (ha : walk.answer m o = .ok page) (hpage : page.entries = more.map some) (hr : walk.recursive = true)
    (ht : page.truncated = true) (hc : walk.continuation more page = .ok next) (hb : walk.isBlank next = true) :
    walk.Course m₀ o₀ (fetched.map (·.1) ++ [m])
      ((values ++ more).map .value ++ [.failure (.storage .missingMarker)]) (walk.stateAfter m o) := by
  have hcourse := hp.course (.unmarked (fetch_of_answer ha) hpage hr ht hc hb)
  rwa [← List.append_assoc, ← List.map_append] at hcourse

end

/-- **When a walk makes progress.** A walk does not look back to the markers from which it has fetched. So what it makes
of a service depends on where the pages lead:

* No marker is fetched from twice just if the pages never lead back to a marker from which the walk has fetched.
* The walk can be read to its end just if its pages do not lead on forever.
* The producing side of a closed feed comes to its end just if the walk does not come to a marker behind which pages
  without entries lead on forever.
* When the answers of the service depend on nothing but the marker, pages that lead back lead on forever.
* When all answers lead ahead in some order, no marker is fetched from twice in any run, whatever others do meanwhile.
* A truncated page without a marker ends the walk: its consumer receives the values and then one failure. -/
theorem makes_progress_iff (walk : Walk σ μ α) (o : Observed σ) :
    ((∀ es f o', Runs walk.producer undisturbed walk.feed o es f o' → (fetchedFrom es).Nodup) ↔
      ∀ fetched values m o', walk.Passes undisturbed walk.start o fetched values m o' → m ∉ fetched.map (·.1)) ∧
    ((∃ es o', Complete walk.producer (.fetching walk.start) o es o') ↔ ¬walk.LeadsOnForever walk.start o) ∧
    (∀ (f : Feed (Stage μ α) α) (o₁ : Observed σ), f.closed = true →
      ((∃ moves, (f.settle walk.producer moves o₁).1.alive = false) ↔
        ¬∃ moves m, (f.settle walk.producer moves o₁).1.worker = .running (.fetching m) ∧
          walk.IdlesForever m (f.settle walk.producer moves o₁).2)) ∧
    ((∀ m o₁ o₂, walk.answer m o₁ = walk.answer m o₂) → ∀ fetched values m o',
      walk.Passes undisturbed walk.start o fetched values m o' → m ∈ fetched.map (·.1) →
        walk.LeadsOnForever walk.start o) ∧
    (∀ ahead : μ → μ → Prop, (∀ a, ¬ahead a a) → (∀ a b c, ahead a b → ahead b c → ahead a c) →
      (∀ m o₁ values next, walk.LeadsOn (walk.answer m o₁) values next → ahead m next) →
        ∀ outside es f o', Runs walk.producer outside walk.feed o es f o' → (fetchedFrom es).Nodup) ∧
    ∀ fetched values m o₁ page more next, walk.Passes undisturbed walk.start o fetched values m o₁ →
      walk.answer m o₁ = .ok page → page.entries = more.map some → walk.recursive = true → page.truncated = true →
      walk.continuation more page = .ok next → walk.isBlank next = true →
        (∃ es o', Complete walk.producer (.fetching walk.start) o es o') ∧
        ∀ es o', Complete walk.producer (.fetching walk.start) o es o' →
          fetchedFrom es = fetched.map (·.1) ++ [m] ∧
          received es = (values ++ more).map .value ++ [.failure (.storage .missingMarker)] := by
  refine ⟨⟨?_, ?_⟩, exists_complete_iff, fun f o₁ hc => ends_iff hc, ?_, ?_, ?_⟩
  · intro hnodup fetched values m o' hp
    obtain ⟨es, answers, hes, rfl⟩ := exists_runs_of_passes hp
    -- one move more, and the walk has fetched from its marker
    have hfetch := hnodup _ _ _ (hes.trans (.cons (.move rfl rfl) .nil))
    rw [fetchedFrom_eq, fetchedAt_append, List.map_append] at hfetch
    exact fun hm => (List.nodup_append.1 hfetch).2.2 m hm m List.mem_cons_self rfl
  · intro hfresh es f o' h
    refine pairwise_fetchedFrom (fun hp k hk => ?_) h
    rintro rfl
    exact hfresh _ _ _ _ hp hk
  · exact fun hs fetched values m o' hp hm => leadsOnForever_of_mem hs hp hm
  · intro ahead hirrefl htrans hahead outside es f o' h
    refine pairwise_fetchedFrom (fun {_ _ m _} hp k hk hsame => ?_) h
    have hlt : ahead k m := hp.ahead htrans hahead k hk
    rw [hsame] at hlt
    exact hirrefl m hlt
  · intro fetched values m o₁ page more next hp ha hpage hr ht hc hb
    have hcourse := hp.course_of_blank ha hpage hr ht hc hb
    obtain ⟨es, hes, -⟩ := hcourse.reads
    refine ⟨⟨es, _, hes⟩, fun es o' h => ?_⟩
    obtain ⟨hmarkers, hitems, -⟩ := hcourse.unique (course_of_brings h.brings)
    exact ⟨hmarkers, hitems⟩

/-- Pages without entries that name the same marker again and again lead on forever, also behind a closed feed. A
service that goes from the start over `"a"` to `"b"`, where a marker is missing, is asked once for each of them. -/
theorem makes_progress_of_marked :
    let idle : Walk Unit String String := pages true .ok fun _ _ o => (.ok ⟨[], true, "m"⟩, o)
    let page (marker : String) : Page String (Option String) :=
      if marker = "" then ⟨[some "a"], true, ""⟩ else if marker = "a" then ⟨[], true, "b"⟩ else ⟨[], true, ""⟩
    let walk : Walk Unit String String := pages true .ok fun marker _ o => (.ok (page marker), o)
    (¬∃ es o', Complete idle.producer (.fetching "") ⟨(), [], {}⟩ es o') ∧
    (∀ moves, (idle.feed.close.settle idle.producer moves ⟨(), [], {}⟩).1.alive = true) ∧
    (∀ outside es f o', Runs walk.producer outside walk.feed ⟨(), [], {}⟩ es f o' → (fetchedFrom es).Nodup) ∧
    (∃ es o', Complete walk.producer (.fetching "") ⟨(), [], {}⟩ es o' ∧ fetchedFrom es = ["", "a", "b"] ∧
      received es = [.value "a", .failure (.storage .missingMarker)]) := by
  intro idle page walk
  obtain ⟨-, hread, hclosed, hback, -, -⟩ := makes_progress_iff idle ⟨(), [], {}⟩
  have hidle : ∀ m o, idle.LeadsOn (idle.answer m o) [] "m" := fun m o => .page rfl rfl rfl rfl rfl
  have hpassed : idle.Passes undisturbed "" ⟨(), [], {}⟩ _ _ "m" _ :=
    .page (.page .start (hidle "" _)) (hidle "m" _)
  obtain ⟨-, -, -, -, hahead, hmissing⟩ := makes_progress_iff walk ⟨(), [], {}⟩
  have hfirst : walk.LeadsOn (walk.answer "" ⟨(), [], {}⟩) ["a"] "a" := .page rfl rfl rfl rfl rfl
  have hsecond : walk.LeadsOn (walk.answer "a" ⟨(), [], {}⟩) [] "b" := .page rfl rfl rfl rfl rfl
  obtain ⟨⟨es, o', hes⟩, hall⟩ := hmissing _ _ _ _ _ [] "" (.page (.page .start hfirst) hsecond) rfl rfl rfl rfl rfl rfl
  refine ⟨?_, fun moves => ?_, ?_, es, o', hes, hall es o' hes⟩
  · exact fun hes => hread.1 hes (hback (fun _ _ _ => rfl) _ _ _ _ hpassed (by simp))
  · refine (Bool.not_eq_false _).mp fun hend => (hclosed _ ⟨(), [], {}⟩ rfl).1 ⟨moves, hend⟩ ⟨2, "m", rfl, ?_⟩
    exact idlesForever_of_leadsOn (hidle "m")
  · refine hahead (· < ·) String.lt_irrefl (fun _ _ _ => String.lt_trans) ?_
    intro m o values next hl
    by_cases hm : m = ""
    · subst hm
      obtain ⟨-, rfl⟩ := hl.unique hfirst
      decide
    · by_cases ha : m = "a"
      · subst ha
        obtain ⟨-, rfl⟩ := hl.unique hsecond
        decide
      · have hanswer : walk.answer m o = .ok ⟨[], true, ""⟩ := by simp [walk, page, answer, pages, hm, ha]
        rw [hanswer] at hl
        have hvalues : values = [] := hl.values_eq rfl
        subst hvalues
        cases hl with
        | page _ _ _ hc hb =>
          cases hc
          cases hb

/-- Truncated pages that do not advance. A service that repeats its last key is asked for the page behind it again. One
that names the same marker behind pages without entries is asked again too. Neither walk has an end, and when its feed
is closed the latter goes on fetching. -/
theorem fetches_again_of_stuck_pages :
    let repeating : Walk Unit String String := pages true .ok fun _ _ o => (.ok ⟨[some "k"], true, ""⟩, o)
    let idle : Walk Unit String String := pages true .ok fun _ _ o => (.ok ⟨[], true, "m"⟩, o)
    (∃ es f o', Runs repeating.producer undisturbed repeating.feed ⟨(), [], {}⟩ es f o' ∧
      fetchedFrom es = ["", "k", "k"] ∧ ¬(fetchedFrom es).Nodup) ∧
    (∃ es f o', Runs idle.producer undisturbed idle.feed ⟨(), [], {}⟩ es f o' ∧
      fetchedFrom es = ["", "m", "m"] ∧ ¬(fetchedFrom es).Nodup) ∧
    (¬∃ es o', Complete repeating.producer (.fetching "") ⟨(), [], {}⟩ es o') ∧
    (¬∃ es o', Complete idle.producer (.fetching "") ⟨(), [], {}⟩ es o') ∧
    ∀ moves, (idle.feed.close.settle idle.producer moves ⟨(), [], {}⟩).1.alive = true := by
  intro repeating idle
  have hrepeating : ∀ m o, repeating.LeadsOn (repeating.answer m o) ["k"] "k" := fun m o => .page rfl rfl rfl rfl rfl
  have hidle : ∀ m o, idle.LeadsOn (idle.answer m o) [] "m" := fun m o => .page rfl rfl rfl rfl rfl
  have hpassed : repeating.Passes undisturbed "" ⟨(), [], {}⟩ _ _ "k" _ :=
    .page (.page (.page .start (hrepeating "" _)) (hrepeating "k" _)) (hrepeating "k" _)
  have hpassed' : idle.Passes undisturbed "" ⟨(), [], {}⟩ _ _ "m" _ :=
    .page (.page (.page .start (hidle "" _)) (hidle "m" _)) (hidle "m" _)
  obtain ⟨es, answers, hes, hfetched⟩ := exists_runs_of_passes hpassed
  obtain ⟨es', answers', hes', hfetched'⟩ := exists_runs_of_passes hpassed'
  have hmarkers : fetchedFrom es = ["", "k", "k"] := by simp [fetchedFrom_eq, hfetched]
  have hmarkers' : fetchedFrom es' = ["", "m", "m"] := by simp [fetchedFrom_eq, hfetched']
  refine ⟨⟨es, _, _, hes, hmarkers, by simp [hmarkers]⟩, ⟨es', _, _, hes', hmarkers', by simp [hmarkers']⟩, ?_, ?_, ?_⟩
  · exact fun h => exists_complete_iff.1 h (leadsOnForever_of_mem (fun _ _ _ => rfl) hpassed (by simp))
  · exact fun h => exists_complete_iff.1 h (leadsOnForever_of_mem (fun _ _ _ => rfl) hpassed' (by simp))
  · refine fun moves => (Bool.not_eq_false _).mp fun hend => (ends_iff rfl).1 ⟨moves, hend⟩ ⟨2, "m", rfl, ?_⟩
    exact idlesForever_of_leadsOn (hidle "m")

end BucketClient.Walk
