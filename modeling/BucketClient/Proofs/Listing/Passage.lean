import BucketClient.Proofs.Feed.Delivery
import BucketClient.Proofs.Listing.Course

/-!
# How far a walk has come

At any time of any run, a walk has fetched pages that led on, one after the other, and now it is about to fetch from a
marker, hands over what is left of a page, or has come to a halt.

* `LeadsOn`: what a fetch has given leads a recursive walk on to a marker. If it does not, the walk comes to a halt
  behind the page (`halted_afterPage`).
* `Passes`: the fetches of a walk that have all led on, the values of their pages, and the marker that it has come to.
* `Stands`: where the producing side is, in terms of the fetches that a run shows and of what has been handed over.
  Every step keeps it, so it holds after every run (`Stands.of_runs`).
-/

namespace BucketClient.Walk

open Feed

variable {σ μ α : Type}

/-! ## Pages that lead on -/

/-- What a fetch has given leads a recursive walk on, behind these values, to a marker. -/
inductive LeadsOn (walk : Walk σ μ α) : Except Failure (Page μ (Option α)) → List α → μ → Prop
  /-- A truncated page without absent entries, behind which there is a marker that is not blank. -/
  | page {page : Page μ (Option α)} {values : List α} {next : μ} (hr : walk.recursive = true)
      (hp : page.entries = values.map some) (ht : page.truncated = true)
      (hc : walk.continuation values page = .ok next) (hb : walk.isBlank next = false) :
      LeadsOn walk (.ok page) values next

/-- What a fetch from a marker gives. -/
def answer (walk : Walk σ μ α) (m : μ) (o : Observed σ) : Except Failure (Page μ (Option α)) :=
  (walk.fetch m walk.delimiter o).1

/-- The state after a fetch from a marker. -/
def stateAfter (walk : Walk σ μ α) (m : μ) (o : Observed σ) : Observed σ :=
  (walk.fetch m walk.delimiter o).2

/-- The producer of a walk fetches no more pages and hands over no more values. -/
inductive Halted : Worker (Stage μ α) → Prop
  | ending {e : Failure} : Halted (.running (.ending e))
  | failing {e : Failure} : Halted (.running (.failing e))
  | finished : Halted (.running .finished)
  | reporting {e : Failure} : Halted (.reporting e)
  | finishing : Halted .finishing
  | ended : Halted .ended

section

variable {walk : Walk σ μ α} {m next next₁ : μ} {o : Observed σ} {page : Page μ (Option α)}
  {outcome : Except Failure (Page μ (Option α))} {values values₁ : List α}

theorem map_some_inj : values.map some = values₁.map some ↔ values = values₁ :=
  List.map_inj_right fun _ _ h => Option.some.inj h

theorem fetch_of_answer (ha : walk.answer m o = outcome) :
    walk.fetch m walk.delimiter o = (outcome, walk.stateAfter m o) := by
  rw [← ha]
  rfl

theorem fetchPage_of_answer (ha : walk.answer m o = .ok page) :
    walk.fetchPage m o = (.emitting page.entries page, walk.stateAfter m o) := by
  simp [fetchPage, fetch_of_answer ha]

theorem LeadsOn.values_eq (h : walk.LeadsOn (.ok page) values next) (hp : page.entries = values₁.map some) :
    values = values₁ := by
  cases h with
  | page _ hp' =>
    rw [hp'] at hp
    exact map_some_inj.1 hp

theorem LeadsOn.unique (h : walk.LeadsOn outcome values next) (h₁ : walk.LeadsOn outcome values₁ next₁) :
    values₁ = values ∧ next₁ = next := by
  cases h₁ with
  | page hr hp ht hc hb =>
    obtain rfl := h.values_eq hp
    cases h with
    | page _ _ _ hc' =>
      rw [hc] at hc'
      exact ⟨rfl, Except.ok.inj hc'⟩

theorem LeadsOn.afterPage_eq (h : walk.LeadsOn (.ok page) values next) : walk.afterPage page = .fetching next := by
  cases h with
  | page hr hp ht hc hb => simp [afterPage_of_truncated hp hr ht, hc, hb]

/-- What leads on is a page, behind which the walk is about to fetch from the marker. -/
theorem LeadsOn.exists_page (h : walk.LeadsOn outcome values next) :
    ∃ page, outcome = .ok page ∧ page.entries = values.map some ∧ walk.afterPage page = .fetching next := by
  cases h with
  | page hr hp ht hc hb => exact ⟨_, rfl, hp, LeadsOn.afterPage_eq (.page hr hp ht hc hb)⟩

/-- A page on which an entry is absent does not lead on. -/
theorem not_leadsOn_of_absent (hm : none ∈ page.entries) : ¬walk.LeadsOn (.ok page) values next := by
  intro h
  cases h with
  | page _ hp =>
    rw [hp] at hm
    simp at hm

/-- After a failed fetch a walk comes to a halt. -/
theorem halted_fetchPage {e : Failure} (ha : walk.answer m o = .error e) :
    Halted (.running (walk.fetchPage m o).1) := by
  simp only [fetchPage, fetch_of_answer ha]
  split
  · exact .failing
  · exact .ending

/-- Behind a page that does not lead on a walk comes to a halt. -/
theorem halted_afterPage (hp : page.entries = values.map some)
    (hn : ∀ next, ¬walk.LeadsOn (.ok page) values next) : Halted (.running (walk.afterPage page)) := by
  by_cases hlast : walk.recursive = false ∨ page.truncated = false
  · rw [afterPage_of_last hlast]
    exact .finished
  · simp only [not_or, Bool.not_eq_false] at hlast
    obtain ⟨hr, ht⟩ := hlast
    rw [afterPage_of_truncated hp hr ht]
    cases hc : walk.continuation values page with
    | error e => exact .failing
    | ok next =>
      cases hb : walk.isBlank next with
      | true =>
        simp only [hb, if_true]
        exact .ending
      | false => exact absurd (.page hr hp ht hc hb) (hn next)

end

/-! ## The fetches of a run -/

/-- The marker from which a page is fetched, and the state in which that happens. -/
def fetch? : Event σ (Stage μ α) α → Option (μ × Observed σ)
  | .worked o (.fetching m) _ => some (m, o)
  | _ => none

/-- The fetches of a run: from which markers, and in which states. -/
def fetchedAt (es : List (Event σ (Stage μ α) α)) : List (μ × Observed σ) := es.filterMap fetch?

theorem fetchedAt_append (es fs : List (Event σ (Stage μ α) α)) : fetchedAt (es ++ fs) = fetchedAt es ++ fetchedAt fs :=
  List.filterMap_append

theorem fetchedAt_cons (e : Event σ (Stage μ α) α) (es : List (Event σ (Stage μ α) α)) :
    fetchedAt (e :: es) = (fetch? e).toList ++ fetchedAt es := by
  rw [fetchedAt, List.filterMap_cons]
  cases fetch? e <;> rfl

theorem fetchedAt_concat (es : List (Event σ (Stage μ α) α)) (e : Event σ (Stage μ α) α) :
    fetchedAt (es ++ [e]) = fetchedAt es ++ (fetch? e).toList := by
  rw [fetchedAt_append, fetchedAt_cons]
  simp [fetchedAt]

theorem fetchedFrom_eq (es : List (Event σ (Stage μ α) α)) : fetchedFrom es = (fetchedAt es).map (·.1) := by
  induction es with
  | nil => rfl
  | cons e es ih =>
    have hcons : fetchedFrom (e :: es) = ((fetch? e).toList.map (·.1)) ++ fetchedFrom es := by
      rw [fetchedFrom, workedAt_cons, List.filterMap_append]
      cases e with
      | worked o before after => cases before <;> rfl
      | _ => rfl
    rw [hcons, ih, fetchedAt_cons, List.map_append]

/-! ## The passage of a walk -/

/-- Beginning at a marker in a state, the walk has fetched pages that have all led on: the fetches, the values of the
pages, the marker that it has come to, and the state. -/
inductive Passes (walk : Walk σ μ α) (outside : Observed σ → Observed σ → Prop) (m₀ : μ) (o₀ : Observed σ) :
    List (μ × Observed σ) → List α → μ → Observed σ → Prop
  | start : Passes walk outside m₀ o₀ [] [] m₀ o₀
  | page {fetched : List (μ × Observed σ)} {values more : List α} {m next : μ} {o : Observed σ}
      (h : Passes walk outside m₀ o₀ fetched values m o) (hl : walk.LeadsOn (walk.answer m o) more next) :
      Passes walk outside m₀ o₀ (fetched ++ [(m, o)]) (values ++ more) next (walk.stateAfter m o)
  /-- Others change the state. -/
  | disturbed {fetched : List (μ × Observed σ)} {values : List α} {m : μ} {o o₁ : Observed σ}
      (h : Passes walk outside m₀ o₀ fetched values m o) (ho : outside o o₁) :
      Passes walk outside m₀ o₀ fetched values m o₁

/-- These values have been handed over and accepted, and nothing else. -/
structure HandedOver (es : List (Event σ (Stage μ α) α)) (values : List α) : Prop where
  emitted_eq : emitted es = values.map .value
  answers_eq : answersOf es = values.map fun _ => true

/-- Where the producing side of a walk stands that has begun in the state `o₀`, after these events. -/
inductive Stands (walk : Walk σ μ α) (outside : Observed σ → Observed σ → Prop) (o₀ : Observed σ)
    (es : List (Event σ (Stage μ α) α)) (closed : Bool) : Worker (Stage μ α) → Observed σ → Prop
  | fetching {values : List α} {m : μ} {o : Observed σ}
      (h : walk.Passes outside walk.start o₀ (fetchedAt es) values m o) (hh : HandedOver es values) :
      Stands walk outside o₀ es closed (.running (.fetching m)) o
  | emitting {fetched : List (μ × Observed σ)} {values shown : List α} {left : List (Option α)} {m : μ}
      {page : Page μ (Option α)} {o o₁ : Observed σ} (h : walk.Passes outside walk.start o₀ fetched values m o₁)
      (hf : fetchedAt es = fetched ++ [(m, o₁)]) (ha : walk.answer m o₁ = .ok page)
      (hp : page.entries = shown.map some ++ left) (hh : HandedOver es (values ++ shown))
      (hnext : ∀ more next, walk.LeadsOn (.ok page) more next →
        walk.Passes outside walk.start o₀ (fetchedAt es) (values ++ more) next o) :
      Stands walk outside o₀ es closed (.running (.emitting left page)) o
  /-- The feed is closed, or the last page does not lead on. -/
  | halted {fetched : List (μ × Observed σ)} {values : List α} {m : μ} {worker : Worker (Stage μ α)} {o o₁ : Observed σ}
      (h : walk.Passes outside walk.start o₀ fetched values m o₁) (hf : fetchedAt es = fetched ++ [(m, o₁)])
      (hw : Halted worker) (hend : closed = true ∨ ∀ more next, ¬walk.LeadsOn (walk.answer m o₁) more next) :
      Stands walk outside o₀ es closed worker o

section

variable {walk : Walk σ μ α} {outside : Observed σ → Observed σ → Prop} {o₀ o o' : Observed σ}
  {es : List (Event σ (Stage μ α) α)} {e : Event σ (Stage μ α) α} {closed closed' : Bool}
  {worker : Worker (Stage μ α)} {f f' : Feed (Stage μ α) α} {values : List α}

/-- An event with which nothing is handed over. -/
theorem HandedOver.append (h : HandedOver es values) (hi : e.emitted? = none) (ha : e.answer? = none) :
    HandedOver (es ++ [e]) values := by
  constructor
  · rw [emitted_append, emitted_cons, hi, h.emitted_eq]
    simp
  · rw [answersOf_append, answersOf_cons, ha, h.answers_eq]
    simp

theorem HandedOver.accept (h : HandedOver es values) (value : α) :
    HandedOver (es ++ [.answered (.value value) true]) (values ++ [value]) := by
  constructor
  · simp [h.emitted_eq]
  · simp [h.answers_eq]

/-- A halted producer stays halted. -/
theorem Halted.of_moves (h : Halted f.worker) (hm : Moves walk.producer f o e f' o') :
    Halted f'.worker ∧ fetch? e = none := by
  cases hm with
  | accept hp | refuse hp =>
    cases h <;> cases hp
    exact ⟨.finished, rfl⟩
  | work hp => cases h <;> cases hp
  | finish hp | interrupt hp | drop | report => exact ⟨.finishing, rfl⟩
  | fail hp => exact ⟨.reporting, rfl⟩
  | conclude | vanish => exact ⟨.ended, rfl⟩

/-- An event at which the producer of the walk does nothing. -/
theorem Stands.pass (h : Stands walk outside o₀ es closed worker o) (hf : fetch? e = none) (hi : e.emitted? = none)
    (ha : e.answer? = none) (hc : closed = true → closed' = true) (ho : o' = o ∨ outside o o') :
    Stands walk outside o₀ (es ++ [e]) closed' worker o' := by
  have hsame : fetchedAt (es ++ [e]) = fetchedAt es := by simp [fetchedAt_concat, hf]
  have hlater : ∀ {fetched values m}, walk.Passes outside walk.start o₀ fetched values m o →
      walk.Passes outside walk.start o₀ fetched values m o' := by
    intro fetched values m hp
    rcases ho with rfl | ho
    · exact hp
    · exact .disturbed hp ho
  cases h with
  | fetching h hh =>
    rw [← hsame] at h
    exact .fetching (hlater h) (hh.append hi ha)
  | emitting h hfetched hanswer hp hh hnext =>
    rw [← hsame] at hfetched hnext
    exact .emitting h hfetched hanswer hp (hh.append hi ha) fun more next hl => hlater (hnext more next hl)
  | halted h hfetched hw hend =>
    rw [← hsame] at hfetched
    exact .halted h hfetched hw (hend.imp_left hc)

/-- A fetch from the marker that the walk has come to. -/
theorem Stands.of_fetch {m : μ} (h : walk.Passes outside walk.start o₀ (fetchedAt es) values m o)
    (hh : HandedOver es values) (after : Stage μ α) :
    Stands walk outside o₀ (es ++ [.worked o (.fetching m) after]) closed (.running (walk.fetchPage m o).1)
      (walk.fetchPage m o).2 := by
  have hf : fetchedAt (es ++ [.worked o (.fetching m) after]) = fetchedAt es ++ [(m, o)] := fetchedAt_concat _ _
  have hh' : HandedOver (es ++ [.worked o (.fetching m) after]) values := hh.append rfl rfl
  cases hanswer : walk.answer m o with
  | error error =>
    have hnot : ∀ more next, ¬walk.LeadsOn (walk.answer m o) more next := by
      intro more next hl
      rw [hanswer] at hl
      cases hl
    exact .halted h hf (halted_fetchPage hanswer) (.inr hnot)
  | ok page =>
    rw [fetchPage_of_answer hanswer]
    have hnone : HandedOver (es ++ [.worked o (.fetching m) after]) (values ++ []) := by simpa using hh'
    refine .emitting h hf hanswer rfl hnone ?_
    intro more next hl
    rw [hf]
    exact .page h (hanswer ▸ hl)

/-- A move of the producing side. -/
theorem Stands.of_moves (h : Stands walk outside o₀ es f.closed f.worker o)
    (hm : Moves walk.producer f o e f' o') : Stands walk outside o₀ (es ++ [e]) f'.closed f'.worker o' := by
  obtain ⟨worker, slot, closed, answers, begun⟩ := f
  cases h with
  | halted h hf hw hend =>
    obtain ⟨hw', he⟩ := hw.of_moves hm
    refine .halted h ?_ hw' ?_
    · rw [fetchedAt_concat, he]
      simpa using hf
    · rw [closed_of_moves hm]
      exact hend
  | fetching h hh =>
    cases hm with
    | work hp =>
      cases hp
      exact Stands.of_fetch h hh _
    | accept hp | refuse hp | finish hp | interrupt hp | fail hp => cases hp
  | @emitting fetched values shown left m page _ o₁ h hf ha hp hh hnext =>
    have hsame : fetch? e = none → fetchedAt (es ++ [e]) = fetched ++ [(m, o₁)] := by
      intro he
      rw [fetchedAt_concat, he]
      simpa using hf
    cases left with
    | nil =>
      -- all values have been handed over, and the walk goes on behind the page
      rw [List.append_nil] at hp
      cases hm with
      | work hproducer =>
        cases hproducer
        by_cases hl : ∃ next, walk.LeadsOn (.ok page) shown next
        · obtain ⟨next, hl⟩ := hl
          have hpasses := hnext shown next hl
          rw [hf, ← hsame rfl] at hpasses
          have hstands : Stands walk outside o₀ _ closed _ _ := .fetching hpasses (hh.append rfl rfl)
          rwa [← hl.afterPage_eq] at hstands
        · refine .halted h (hsame rfl) (halted_afterPage hp fun next hn => hl ⟨next, hn⟩) (.inr ?_)
          intro more next hn
          rw [ha] at hn
          obtain rfl := hn.values_eq hp
          exact hl ⟨next, hn⟩
      | accept hp | refuse hp | finish hp | interrupt hp | fail hp => cases hp
    | cons entry left =>
      cases entry with
      | none =>
        have hnot : ∀ more next, ¬walk.LeadsOn (walk.answer m o₁) more next := by
          intro more next
          rw [ha]
          exact not_leadsOn_of_absent (by simp [hp])
        cases hm with
        | interrupt hproducer =>
          cases hproducer
          exact .halted h (hsame rfl) .finishing (.inr hnot)
        | fail hproducer =>
          cases hproducer
          exact .halted h (hsame rfl) .reporting (.inr hnot)
        | accept hp | refuse hp | work hp | finish hp => cases hp
      | some value =>
        cases hm with
        | accept hproducer =>
          cases hproducer
          have hh' := hh.accept value
          rw [List.append_assoc] at hh'
          refine .emitting h (hsame rfl) ha (by simpa using hp) hh' ?_
          intro more next hl
          have hpasses := hnext more next hl
          rwa [hf, ← hsame rfl] at hpasses
        | refuse hproducer =>
          cases hproducer
          exact .halted h (hsame rfl) .finished (.inl rfl)
        | work hp | finish hp | interrupt hp | fail hp => cases hp

/-- A taking of a consumer. -/
theorem Stands.of_takes (h : Stands walk outside o₀ es f.closed f.worker o) {taken : Taken α}
    (ht : Takes f taken f') : Stands walk outside o₀ (es ++ [.took taken]) f'.closed f'.worker o := by
  cases ht with
  | item | waiting | again | closed => exact h.pass rfl rfl rfl id (.inl rfl)
  | finish => exact h.pass rfl rfl rfl (fun _ => rfl) (.inl rfl)

theorem Stands.step (h : Stands walk outside o₀ es f.closed f.worker o)
    (hs : Step walk.producer outside f o e f' o') : Stands walk outside o₀ (es ++ [e]) f'.closed f'.worker o' := by
  cases hs with
  | move hm he => exact h.of_moves (advance_cases hm he)
  | take ht => exact h.of_takes (take_cases ht)
  | get ht => exact h.of_takes (get_cases ht)
  | look hl =>
    rw [hl.eq]
    exact h.pass rfl rfl rfl id (.inl rfl)
  | close => exact h.pass rfl rfl rfl (fun _ => rfl) (.inl rfl)
  | disturb ho => exact h.pass rfl rfl rfl id (.inr ho)

/-- After every run the producing side stands somewhere. -/
theorem Stands.of_runs (h : Runs walk.producer outside walk.feed o es f o') :
    Stands walk outside o es f.closed f.worker o' :=
  h.keeps (P := fun es f o' => Stands walk outside o es f.closed f.worker o') (.fetching .start ⟨rfl, rfl⟩)
    fun hk hs => hk.step hs

end

end BucketClient.Walk
