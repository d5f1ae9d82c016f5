import BucketClient.Proofs.Listing.Passage

/-!
# The pace of a walk

A walk fetches a page only when its consumer has come near: all entries of the pages before have been handed over and
accepted, and all but one of them have been received. An open walk does not lag behind either: as long as pages lead
on, a producing side that can do nothing by itself has fetched the next page as soon as so many items have been received
(`fetches_lazily`).

Both go back to where the walk stands (`Stands`) and to the balance of its feed (`Ledger`).
-/

namespace BucketClient.Walk

open Feed

variable {σ μ α : Type}

/-! ## Pages that are served one after the other -/

/-- The number of entries that a fetch has given. -/
def entryCount : Except Failure (Page μ (Option α)) → Nat
  | .ok page => page.entries.length
  | .error _ => 0

/-- The number of entries of so many pages of a sequence. -/
def entriesBefore (served : Nat → Except Failure (Page μ (Option α))) : Nat → Nat
  | 0 => 0
  | n + 1 => entriesBefore served n + entryCount (served n)

/-- The fetches of a run have been answered with a sequence of pages, each in its turn. -/
def AnsweredBy (walk : Walk σ μ α) (served : Nat → Except Failure (Page μ (Option α)))
    (es : List (Event σ (Stage μ α) α)) : Prop :=
  ∀ i m o, (fetchedAt es)[i]? = some (m, o) → walk.answer m o = served i

section

variable {walk : Walk σ μ α} {outside : Observed σ → Observed σ → Prop} {m m₀ next : μ} {o o₀ o₁ o' : Observed σ}
  {served : Nat → Except Failure (Page μ (Option α))} {outcome : Except Failure (Page μ (Option α))}
  {fetched more : List (μ × Observed σ)} {values : List α} {es es₁ es₂ : List (Event σ (Stage μ α) α)}
  {f : Feed (Stage μ α) α} {after : Stage μ α}

theorem entriesBefore_mono {i n : Nat} (h : i ≤ n) : entriesBefore served i ≤ entriesBefore served n := by
  induction h with
  | refl => exact Nat.le_refl _
  | step _ ih =>
    rw [entriesBefore]
    omega

theorem LeadsOn.entryCount_eq (h : walk.LeadsOn outcome values next) : entryCount outcome = values.length := by
  cases h with
  | page _ hp => simp [entryCount, hp]

/-- The values of the pages that a walk has passed are all the entries that were served for them. -/
theorem Passes.length_values (h : walk.Passes outside m₀ o₀ fetched values m o)
    (hs : ∀ i m o, fetched[i]? = some (m, o) → walk.answer m o = served i) :
    values.length = entriesBefore served fetched.length := by
  induction h with
  | start => rfl
  | disturbed _ _ ih => exact ih hs
  | @page fetched values more m next o _ hl ih =>
    have hbefore : ∀ i m o, fetched[i]? = some (m, o) → walk.answer m o = served i := by
      intro i m o hi
      apply hs
      rw [List.getElem?_append_left (List.getElem?_eq_some_iff.1 hi).1]
      exact hi
    have hlast : walk.answer m o = served fetched.length := hs _ _ _ (by simp)
    rw [List.length_append, ih hbefore, List.length_append, List.length_singleton, entriesBefore, ← hlast,
      hl.entryCount_eq]

theorem AnsweredBy.of_append (h : walk.AnsweredBy served (es₁ ++ es₂)) : walk.AnsweredBy served es₁ := by
  intro i m o hi
  apply h
  rw [fetchedAt_append]
  exact (List.getElem?_append_left (List.getElem?_eq_some_iff.1 hi).1).trans hi

/-! ## When a page is fetched -/

/-- A fetch of a run is the next one after those before it. -/
theorem exists_fetch_of_lt {i : Nat} (hi : i < (fetchedAt es).length) :
    ∃ es₁ m o after es₂, es = es₁ ++ .worked o (.fetching m) after :: es₂ ∧ (fetchedAt es₁).length = i := by
  induction es generalizing i with
  | nil => simp [fetchedAt] at hi
  | cons e es ih =>
    rw [fetchedAt_cons] at hi
    cases he : fetch? e with
    | none =>
      simp only [he, Option.toList_none, List.nil_append] at hi
      obtain ⟨es₁, m, o, after, es₂, rfl, hlength⟩ := ih hi
      refine ⟨e :: es₁, m, o, after, es₂, rfl, ?_⟩
      rw [← hlength, fetchedAt_cons, he]
      rfl
    | some fetch =>
      simp only [he, Option.toList_some, List.singleton_append, List.length_cons] at hi
      cases i with
      | zero =>
        cases e with
        | worked o before after =>
          cases before with
          | fetching m => exact ⟨[], m, o, after, es, rfl, rfl⟩
          | _ => cases he
        | _ => cases he
      | succ i =>
        obtain ⟨es₁, m, o, after, es₂, rfl, hlength⟩ := ih (Nat.lt_of_succ_lt_succ hi)
        refine ⟨e :: es₁, m, o, after, es₂, rfl, ?_⟩
        rw [fetchedAt_cons, he]
        exact congrArg Nat.succ hlength

/-- Before a fetch, all entries of the pages before it have been handed over, and all but one have been received. -/
theorem passes_of_fetch
    (h : Runs walk.producer outside walk.feed o (es₁ ++ .worked o₁ (.fetching m) after :: es₂) f o') :
    ∃ values, walk.Passes outside walk.start o (fetchedAt es₁) values m o₁ ∧ HandedOver es₁ values ∧
      values.length ≤ (received es₁).length + 1 := by
  obtain ⟨f₁, o₂, h₁, h₂⟩ := h.of_append
  have hl : Ledger es₁ f₁ := Ledger.of_runs h₁
  have hstands := Stands.of_runs h₁
  -- the producer was about to fetch
  have hworker : f₁.worker = .running (.fetching m) ∧ o₂ = o₁ := by
    cases h₂ with
    | cons hs _ =>
      cases hs with
      | move hm he =>
        generalize hevent : (Event.worked o₁ (.fetching m) after : Event σ (Stage μ α) α) = e at he
        cases advance_cases hm he <;> cases hevent
        exact ⟨rfl, rfl⟩
  obtain ⟨hworker, rfl⟩ := hworker
  rw [hworker] at hstands
  cases hstands with
  | halted _ _ hw => cases hw
  | @fetching values _ _ hp hh =>
    refine ⟨values, hp, hh, ?_⟩
    have hcount : f₁.answers.count true = values.length := by
      rw [hl.answers_eq, hh.answers_eq, List.map_const', List.count_replicate_self]
    have hahead := hl.ahead
    have hslot := length_inSlot_le f₁.slot
    omega

/-- An open walk that is held up has not yet handed over all entries of the last page that it has fetched. -/
theorem lt_entriesBefore_of_settled (h : Runs walk.producer outside walk.feed o es f o')
    (hs : walk.AnsweredBy served es) (hopen : f.closed = false) (hsettled : f.advance walk.producer o' = none) {i : Nat}
    (hi : (fetchedAt es).length ≤ i) (hleads : ∀ j < i, ∃ values next, walk.LeadsOn (served j) values next) :
    (received es).length + 1 < entriesBefore served i := by
  have hl : Ledger es f := Ledger.of_runs h
  have hstands := Stands.of_runs h
  obtain ⟨worker, slot, closed, answers, begun⟩ := f
  obtain rfl : closed = false := hopen
  cases hstands with
  | fetching => cases hsettled
  | @halted fetched values m _ _ o₁ _ hf hw hend =>
    -- the last page would have led on
    have hlast : walk.answer m o₁ = served fetched.length := hs _ _ _ (by simp [hf])
    rw [hf, List.length_append, List.length_singleton] at hi
    obtain ⟨more, next, hmore⟩ := hleads fetched.length (by omega)
    rw [← hlast] at hmore
    rcases hend with hc | hnot
    · cases hc
    · exact absurd hmore (hnot more next)
  | @emitting fetched values shown left m page _ o₁ hp hf ha hentries hh hnext =>
    cases left with
    | nil => cases hsettled
    | cons entry left =>
      cases entry with
      | none =>
        have hfail : walk.producer (.emitting (none :: left) page) = .fail (.value .emptyItem) := rfl
        simp only [advance, hfail] at hsettled
        split at hsettled <;> cases hsettled
      | some value =>
        have hoffer : walk.producer (.emitting (some value :: left) page) = _ := producer_emitting value left page
        -- the slot is full, with an item that has not been received
        have hslot : ∃ item, slot = some (.item item) := by
          cases slot with
          | none => simp [advance, put, admits, hoffer] at hsettled
          | some signal =>
            cases signal with
            | item item => exact ⟨item, rfl⟩
            | finish => cases hl.ended_of_finish rfl
        obtain ⟨item, rfl⟩ := hslot
        have hbalance := congrArg List.length (hl.balance (.inl rfl))
        rw [hl.unfailed _ rfl, hh.emitted_eq] at hbalance
        simp only [inSlot_item, unreported_running, List.append_nil, List.length_append, List.length_singleton,
          List.length_map] at hbalance
        have hbefore : ∀ i m o, fetched[i]? = some (m, o) → walk.answer m o = served i := by
          intro i m o hi
          apply hs
          rw [hf, List.getElem?_append_left (List.getElem?_eq_some_iff.1 hi).1]
          exact hi
        have hlast : walk.answer m o₁ = served fetched.length := hs _ _ _ (by simp [hf])
        have hcount : entryCount (served fetched.length) = shown.length + (left.length + 1) := by
          rw [← hlast, ha]
          simp [entryCount, hentries]
        have hvalues := hp.length_values hbefore
        have hmono : entriesBefore served (fetched.length + 1) ≤ entriesBefore served i := by
          apply entriesBefore_mono
          simpa [hf] using hi
        rw [entriesBefore] at hmono
        omega

end

/-- **Pages are fetched lazily.** When the fetches of a run are answered with a sequence of pages, a page is fetched
only after the consumer has received all entries of the pages before it but one. The fetches are made one at a time and
in the order of the pages: before each of them, all values of the pages before have been handed over and accepted, and
the walk has come to its marker from page to page. While the feed is open and the pages lead on, a producing side that
can do nothing by itself has fetched a page exactly if so many items have been received. -/
theorem fetches_lazily {walk : Walk σ μ α} {outside : Observed σ → Observed σ → Prop}
    {served : Nat → Except Failure (Page μ (Option α))} {f : Feed (Stage μ α) α} {o o' : Observed σ}
    {es : List (Event σ (Stage μ α) α)} (h : Runs walk.producer outside walk.feed o es f o')
    (hs : walk.AnsweredBy served es) :
    (∀ i < (fetchedFrom es).length, entriesBefore served i ≤ (received es).length + 1) ∧
    (∀ es₁ m o₁ after es₂, es = es₁ ++ .worked o₁ (.fetching m) after :: es₂ →
      ∃ values, walk.Passes outside walk.start o (fetchedAt es₁) values m o₁ ∧ HandedOver es₁ values) ∧
    (f.closed = false → f.advance walk.producer o' = none →
      ∀ i, (∀ j < i, ∃ values next, walk.LeadsOn (served j) values next) →
        (i < (fetchedFrom es).length ↔ entriesBefore served i ≤ (received es).length + 1)) := by
  have hlazy : ∀ i < (fetchedFrom es).length, entriesBefore served i ≤ (received es).length + 1 := by
    intro i hi
    rw [fetchedFrom_eq, List.length_map] at hi
    obtain ⟨es₁, m, o₁, after, es₂, rfl, rfl⟩ := exists_fetch_of_lt hi
    obtain ⟨values, hp, -, hreceived⟩ := passes_of_fetch h
    rw [← hp.length_values hs.of_append, received_append, List.length_append]
    omega
  refine ⟨hlazy, ?_, ?_⟩
  · rintro es₁ m o₁ after es₂ rfl
    obtain ⟨values, hp, hh, -⟩ := passes_of_fetch h
    exact ⟨values, hp, hh⟩
  · intro hopen hsettled i hleads
    refine ⟨hlazy i, fun hreceived => Nat.lt_of_not_le fun hi => ?_⟩
    rw [fetchedFrom_eq, List.length_map] at hi
    have hlt := lt_entriesBefore_of_settled h hs hopen hsettled hi hleads
    omega

/-- Behind a page of one value and a page without values the third page has been fetched before anything is received,
and the fourth one has not. -/
theorem fetches_lazily_of_short_pages :
    let served (i : Nat) : Except Failure (Page String (Option Nat)) :=
      .ok (if i = 0 then ⟨[some 1], true, ""⟩ else if i = 1 then ⟨[], true, "m"⟩ else ⟨[some 2, some 3], true, ""⟩)
    let walk : Walk Nat String Nat :=
      pages true (fun _ => .ok "k") fun _ _ o => (served o.transport, { o with transport := o.transport + 1 })
    ∃ es f o', Runs walk.producer undisturbed walk.feed ⟨0, [], {}⟩ es f o' ∧ walk.AnsweredBy served es ∧
      f.closed = false ∧ f.advance walk.producer o' = none ∧ fetchedFrom es = ["", "k", "m"] ∧ received es = [] ∧
      (∀ j < 3, ∃ values next, walk.LeadsOn (served j) values next) ∧
      (2 < (fetchedFrom es).length ↔ entriesBefore served 2 ≤ 1) ∧
      (3 < (fetchedFrom es).length ↔ entriesBefore served 3 ≤ 1) ∧
      entriesBefore served 2 = 1 ∧ entriesBefore served 3 = 3 := by
  intro served walk
  let es : List (Event Nat (Stage String Nat) Nat) := [
    .worked ⟨0, [], {}⟩ (.fetching "") (.emitting [some 1] ⟨[some 1], true, ""⟩), .answered (.value 1) true,
    .worked ⟨1, [], {}⟩ (.emitting [] ⟨[some 1], true, ""⟩) (.fetching "k"),
    .worked ⟨1, [], {}⟩ (.fetching "k") (.emitting [] ⟨[], true, "m"⟩),
    .worked ⟨2, [], {}⟩ (.emitting [] ⟨[], true, "m"⟩) (.fetching "m"),
    .worked ⟨2, [], {}⟩ (.fetching "m") (.emitting [some 2, some 3] ⟨[some 2, some 3], true, ""⟩)]
  have h : Runs walk.producer undisturbed walk.feed ⟨0, [], {}⟩ es _ _ :=
    .cons (.move rfl rfl) <| .cons (.move rfl rfl) <| .cons (.move rfl rfl) <| .cons (.move rfl rfl) <|
      .cons (.move rfl rfl) <| .cons (.move rfl rfl) .nil
  have hs : walk.AnsweredBy served es := by
    intro i m o hi
    match i, hi with
    | 0, rfl => rfl
    | 1, rfl => rfl
    | 2, rfl => rfl
  have hleads : ∀ j < 3, ∃ values next, walk.LeadsOn (served j) values next := by
    intro j hj
    match j with
    | 0 => exact ⟨[1], "k", .page rfl rfl rfl rfl rfl⟩
    | 1 => exact ⟨[], "m", .page rfl rfl rfl rfl rfl⟩
    | 2 => exact ⟨[2, 3], "k", .page rfl rfl rfl rfl rfl⟩
  obtain ⟨-, -, hexact⟩ := fetches_lazily h hs
  refine ⟨es, _, _, h, hs, rfl, rfl, rfl, rfl, hleads, ?_, ?_, rfl, rfl⟩
  · exact hexact rfl rfl 2 fun j hj => hleads j (by omega)
  · exact hexact rfl rfl 3 hleads

end BucketClient.Walk
