import BucketClient.Proofs.Feed.Delivery

/-!
# Draining a feed

What a producer brings forth by itself, when nothing disturbs it and every offer is accepted, is a relation
(`Producer.Brings`): the stages at which it works, the items that it offers, with one for its failure, and the state in
which it leaves what it works on.

* `drain_of_brings`: a feed that is drained gives just these items and leaves that state, if the producer may make a
  move for each stage and each item and two more.
* `Complete.brings`: however the consumer comes to the end of a feed, it has received what the producer brings forth.
  What a producer brings forth can be received (`exists_complete`).
-/

namespace BucketClient

variable {σ S α : Type}

/-! ## What a producer brings forth -/

/-- The items that are handed over for a failure of a producer; there is none for an interrupt. -/
def Failure.reported (error : Failure) : List (Item α) :=
  if error.isInterrupt then [] else [.failure error]

/-- The state after a failure of a producer, which is logged unless it is an interrupt. -/
def Observed.failed (error : Failure) (o : Observed σ) : Observed σ :=
  if error.isInterrupt then o else o.log (Feed.failureRecord error)

/-- What a producer brings forth from a stage on, in a state, when nothing disturbs it and every offer is accepted: the
stages at which it works, the items, and the state after it. -/
inductive Producer.Brings (producer : Producer σ S α) : S → Observed σ → List S → List (Item α) → Observed σ → Prop
  | offer {stage : S} {item : Item α} {next : Bool → S} {o o' : Observed σ} {stages : List S} {items : List (Item α)}
      (h : producer stage = .offer item next) (hb : producer.Brings (next true) o stages items o') :
      producer.Brings stage o stages (item :: items) o'
  | work {stage : S} {run : Observed σ → S × Observed σ} {o o' : Observed σ} {stages : List S} {items : List (Item α)}
      (h : producer stage = .work run) (hb : producer.Brings (run o).1 (run o).2 stages items o') :
      producer.Brings stage o (stage :: stages) items o'
  | finish {stage : S} {o : Observed σ} (h : producer stage = .finish) : producer.Brings stage o [] [] o
  | fail {stage : S} {error : Failure} {o : Observed σ} (h : producer stage = .fail error) :
      producer.Brings stage o [] error.reported (o.failed error)

namespace Producer

variable {producer : Producer σ S α} {stage : S} {o o' : Observed σ} {stages : List S} {items : List (Item α)}

theorem brings_iff_of_offer {item : Item α} {next : Bool → S} (h : producer stage = .offer item next) :
    producer.Brings stage o stages items o' ↔
      ∃ rest, items = item :: rest ∧ producer.Brings (next true) o stages rest o' := by
  constructor
  · intro hb
    cases hb with
    | offer h' hb =>
      rw [h] at h'
      cases h'
      exact ⟨_, rfl, hb⟩
    | work h' | finish h' | fail h' =>
      rw [h] at h'
      cases h'
  · rintro ⟨rest, rfl, hb⟩
    exact .offer h hb

theorem brings_iff_of_work {run : Observed σ → S × Observed σ} (h : producer stage = .work run) :
    producer.Brings stage o stages items o' ↔
      ∃ rest, stages = stage :: rest ∧ producer.Brings (run o).1 (run o).2 rest items o' := by
  constructor
  · intro hb
    cases hb with
    | work h' hb =>
      rw [h] at h'
      cases h'
      exact ⟨_, rfl, hb⟩
    | offer h' | finish h' | fail h' =>
      rw [h] at h'
      cases h'
  · rintro ⟨rest, rfl, hb⟩
    exact .work h hb

theorem brings_iff_of_finish (h : producer stage = .finish) :
    producer.Brings stage o stages items o' ↔ stages = [] ∧ items = [] ∧ o' = o := by
  constructor
  · intro hb
    cases hb with
    | finish => exact ⟨rfl, rfl, rfl⟩
    | offer h' | work h' | fail h' =>
      rw [h] at h'
      cases h'
  · rintro ⟨rfl, rfl, rfl⟩
    exact .finish h

theorem brings_iff_of_fail {error : Failure} (h : producer stage = .fail error) :
    producer.Brings stage o stages items o' ↔ stages = [] ∧ items = error.reported ∧ o' = o.failed error := by
  constructor
  · intro hb
    cases hb with
    | fail h' =>
      rw [h] at h'
      cases h'
      exact ⟨rfl, rfl, rfl⟩
    | offer h' | work h' | finish h' =>
      rw [h] at h'
      cases h'
  · rintro ⟨rfl, rfl, rfl⟩
    exact .fail h

/-- Nothing but the stage and the state decide on what a producer brings forth. -/
theorem Brings.unique {stages₁ : List S} {items₁ : List (Item α)} {o₁ : Observed σ}
    (h : producer.Brings stage o stages items o') (h₁ : producer.Brings stage o stages₁ items₁ o₁) :
    stages₁ = stages ∧ items₁ = items ∧ o₁ = o' := by
  induction h generalizing stages₁ items₁ with
  | offer hp _ ih =>
    obtain ⟨rest, rfl, hrest⟩ := (brings_iff_of_offer hp).1 h₁
    obtain ⟨rfl, rfl, rfl⟩ := ih hrest
    exact ⟨rfl, rfl, rfl⟩
  | work hp _ ih =>
    obtain ⟨rest, rfl, hrest⟩ := (brings_iff_of_work hp).1 h₁
    obtain ⟨rfl, rfl, rfl⟩ := ih hrest
    exact ⟨rfl, rfl, rfl⟩
  | finish hp => exact (brings_iff_of_finish hp).1 h₁
  | fail hp => exact (brings_iff_of_fail hp).1 h₁

end Producer

/-- What the producing side of a feed still brings forth. -/
inductive Worker.Brings (producer : Producer σ S α) :
    Worker S → Observed σ → List S → List (Item α) → Observed σ → Prop
  | running {stage : S} {o o' : Observed σ} {stages : List S} {items : List (Item α)}
      (h : producer.Brings stage o stages items o') : Brings producer (.running stage) o stages items o'
  | reporting {error : Failure} {o : Observed σ} : Brings producer (.reporting error) o [] [.failure error] o
  | finishing {o : Observed σ} : Brings producer .finishing o [] [] o
  | ended {o : Observed σ} : Brings producer .ended o [] [] o

namespace Worker

variable {producer : Producer σ S α} {o o' : Observed σ} {stages : List S} {items : List (Item α)}

theorem brings_reporting_iff {error : Failure} :
    Brings producer (.reporting error) o stages items o' ↔ stages = [] ∧ items = [.failure error] ∧ o' = o := by
  constructor
  · intro hb
    cases hb with
    | reporting => exact ⟨rfl, rfl, rfl⟩
  · rintro ⟨rfl, rfl, rfl⟩
    exact .reporting

theorem brings_finishing_iff : Brings producer .finishing o stages items o' ↔ stages = [] ∧ items = [] ∧ o' = o := by
  constructor
  · intro hb
    cases hb with
    | finishing => exact ⟨rfl, rfl, rfl⟩
  · rintro ⟨rfl, rfl, rfl⟩
    exact .finishing

theorem brings_ended_iff : Brings producer .ended o stages items o' ↔ stages = [] ∧ items = [] ∧ o' = o := by
  constructor
  · intro hb
    cases hb with
    | ended => exact ⟨rfl, rfl, rfl⟩
  · rintro ⟨rfl, rfl, rfl⟩
    exact .ended

/-- The moves that the producing side makes besides working and handing items over, at most. -/
def spare : Worker S → Nat
  | .running _ => 2
  | .reporting _ => 1
  | .finishing => 1
  | .ended => 0

theorem spare_le (worker : Worker S) : worker.spare ≤ 2 := by
  cases worker <;> simp [spare]

end Worker

namespace Feed

/-! ## What an open feed still delivers -/

/-- An open feed whose producing side still brings forth these items, behind the one in the slot. -/
structure Ahead (producer : Producer σ S α) (f : Feed S α) (o : Observed σ) (stages : List S)
    (items : List (Item α)) (o' : Observed σ) : Prop where
  open_ : f.closed = false
  /-- The end is in the slot as soon as all is handed over. -/
  finish_iff : f.slot = some .finish ↔ f.worker = .ended
  brings : Worker.Brings producer f.worker o stages items o'

section

variable {producer : Producer σ S α} {f f₁ : Feed S α} {o o₁ o' : Observed σ} {e : Event σ S α} {stages : List S}
  {items : List (Item α)}

/-- A move of the producing side takes from what is ahead, and puts what it takes into the slot. -/
theorem Ahead.of_moves (h : Ahead producer f o stages items o') (hm : Moves producer f o e f₁ o₁) :
    ∃ stages₁ items₁, Ahead producer f₁ o₁ stages₁ items₁ o' ∧
      inSlot f.slot ++ items = inSlot f₁.slot ++ items₁ ∧
      stages₁.length + items₁.length + f₁.worker.spare < stages.length + items.length + f.worker.spare ∧
      stages₁.length ≤ stages.length ∧ items₁.length ≤ items.length := by
  obtain ⟨hopen, hfinish, hb⟩ := h
  cases hm with
  | refuse | drop | vanish => cases hopen
  | accept hp =>
    cases hb with
    | running hb =>
      obtain ⟨rest, rfl, hrest⟩ := (Producer.brings_iff_of_offer hp).1 hb
      exact ⟨stages, rest, ⟨hopen, by simp, .running hrest⟩, by simp, by simp [Worker.spare], Nat.le_refl _, by simp⟩
  | work hp =>
    cases hb with
    | running hb =>
      obtain ⟨rest, rfl, hrest⟩ := (Producer.brings_iff_of_work hp).1 hb
      refine ⟨rest, items, ⟨hopen, by simpa using hfinish, .running hrest⟩, rfl, ?_, by simp, Nat.le_refl _⟩
      simp only [Worker.spare, List.length_cons]
      omega
  | finish hp =>
    cases hb with
    | running hb =>
      obtain ⟨rfl, rfl, rfl⟩ := (Producer.brings_iff_of_finish hp).1 hb
      exact ⟨[], [], ⟨hopen, by simpa using hfinish, .finishing⟩, rfl, by simp [Worker.spare], Nat.le_refl _,
        Nat.le_refl _⟩
  | interrupt hp hi =>
    cases hb with
    | running hb =>
      obtain ⟨rfl, rfl, rfl⟩ := (Producer.brings_iff_of_fail hp).1 hb
      simp only [Observed.failed, Failure.reported, hi, if_true]
      exact ⟨[], [], ⟨hopen, by simpa using hfinish, .finishing⟩, rfl, by simp [Worker.spare], Nat.le_refl _,
        Nat.le_refl _⟩
  | @fail _ error _ _ _ _ _ hp hi =>
    cases hb with
    | running hb =>
      obtain ⟨rfl, rfl, rfl⟩ := (Producer.brings_iff_of_fail hp).1 hb
      simp only [Observed.failed, Failure.reported, hi, Bool.false_eq_true, if_false]
      exact ⟨[], [.failure error], ⟨hopen, by simpa using hfinish, .reporting⟩, rfl, by simp [Worker.spare],
        Nat.le_refl _, Nat.le_refl _⟩
  | report =>
    cases hb with
    | reporting => exact ⟨[], [], ⟨hopen, by simp, .finishing⟩, rfl, by simp [Worker.spare], Nat.le_refl _, by simp⟩
  | conclude =>
    cases hb with
    | finishing => exact ⟨[], [], ⟨hopen, by simp, .ended⟩, rfl, by simp [Worker.spare], Nat.le_refl _, Nat.le_refl _⟩

/-- A producing side that cannot move on has put something into the slot. -/
theorem Ahead.slot_of_advance_eq_none (h : Ahead producer f o stages items o') (ha : f.advance producer o = none) :
    (∃ item, f.slot = some (.item item)) ∨
      (f.slot = some .finish ∧ f.worker = .ended ∧ stages = [] ∧ items = [] ∧ o' = o) := by
  obtain ⟨worker, slot, closed, answers, begun⟩ := f
  obtain ⟨hopen, hfinish, hb⟩ := h
  obtain rfl : closed = false := hopen
  cases slot with
  | some signal =>
    cases signal with
    | item item => exact .inl ⟨item, rfl⟩
    | finish =>
      obtain rfl : worker = .ended := hfinish.1 rfl
      cases hb
      exact .inr ⟨rfl, rfl, rfl, rfl, rfl⟩
  | none =>
    -- with an empty slot the producing side could have moved
    cases hb with
    | running hb =>
      cases hb with
      | offer hp => simp [advance, put, admits, hp] at ha
      | work hp => simp [advance, hp] at ha
      | finish hp => simp [advance, hp] at ha
      | fail hp =>
        simp only [advance, hp] at ha
        split at ha <;> cases ha
    | reporting => cases ha
    | finishing => cases ha
    | ended => cases hfinish.2 rfl

/-- The producing side settles with something in the slot. -/
theorem Ahead.settle {moves : Nat} (h : Ahead producer f o stages items o')
    (hm : stages.length + items.length + f.worker.spare ≤ moves) :
    ∃ f₁ o₁ stages₁ items₁, f.settle producer moves o = (f₁, o₁) ∧ Ahead producer f₁ o₁ stages₁ items₁ o' ∧
      f₁.advance producer o₁ = none ∧ inSlot f.slot ++ items = inSlot f₁.slot ++ items₁ ∧
      stages₁.length ≤ stages.length ∧ items₁.length ≤ items.length := by
  induction moves generalizing f o stages items with
  | zero =>
    refine ⟨f, o, stages, items, rfl, h, ?_, rfl, Nat.le_refl _, Nat.le_refl _⟩
    cases ha : f.advance producer o with
    | none => rfl
    | some s =>
      obtain ⟨_, _, _, _, hlt, -⟩ := h.of_moves (advance_cases ha rfl)
      omega
  | succ moves ih =>
    cases ha : f.advance producer o with
    | none => exact ⟨f, o, stages, items, by simp [Feed.settle, ha], h, ha, rfl, Nat.le_refl _, Nat.le_refl _⟩
    | some s =>
      obtain ⟨f₁, o₁⟩ := s
      obtain ⟨stages₁, items₁, h₁, heq, hlt, hs, hi⟩ := h.of_moves (advance_cases ha rfl)
      obtain ⟨f₂, o₂, stages₂, items₂, hset, h₂, ha₂, heq₂, hs₂, hi₂⟩ := ih h₁ (by omega)
      exact ⟨f₂, o₂, stages₂, items₂, by simp [Feed.settle, ha, hset], h₂, ha₂, heq.trans heq₂,
        Nat.le_trans hs₂ hs, Nat.le_trans hi₂ hi⟩

/-- The consumer takes what is in the slot of a settled feed, and what is ahead of it, up to the end. -/
theorem Ahead.items_eq {moves most : Nat} (h : Ahead producer f o stages items o') (ha : f.advance producer o = none)
    (hm : stages.length + items.length + 2 ≤ moves) (hn : (inSlot f.slot ++ items).length < most) :
    ∃ f₁, f.items producer moves most o = (inSlot f.slot ++ items, f₁, o') ∧ f₁.worker = .ended ∧
      f₁.closed = true := by
  induction most generalizing f o stages items with
  | zero => exact absurd hn (Nat.not_lt_zero _)
  | succ most ih =>
    rcases h.slot_of_advance_eq_none ha with ⟨item, hs⟩ | ⟨hs, hw, rfl, rfl, rfl⟩
    · have htake : f.take = (.item item, { f with slot := none }) := by simp [take, get, h.open_, hs]
      have hrunning : f.worker ≠ .ended := fun hw => by
        have hfinish := h.finish_iff.2 hw
        rw [hs] at hfinish
        cases hfinish
      have hemptied : Ahead producer { f with slot := none } o stages items o' :=
        ⟨h.open_, ⟨fun hf => (by cases hf), fun hw => absurd hw hrunning⟩, h.brings⟩
      have hmoves : stages.length + items.length + f.worker.spare ≤ moves := by
        have hspare := f.worker.spare_le
        omega
      obtain ⟨f₁, o₁, stages₁, items₁, hset, h₁, ha₁, heq, hs₁, hi₁⟩ := hemptied.settle hmoves
      simp only [inSlot_none, List.nil_append] at heq
      obtain ⟨f₂, hitems, hw₂, hc₂⟩ := ih h₁ ha₁ (by omega) (by
        rw [← heq]
        simpa [hs] using hn)
      refine ⟨f₂, ?_, hw₂, hc₂⟩
      simp [Feed.items, next, htake, hset, hitems, hs, heq]
    · have htake : f.take = (.stopped, { f with slot := none, closed := true }) := by simp [take, get, h.open_, hs]
      have hset := settle_of_ended producer moves (f := { f with slot := none, closed := true }) hw o'
      refine ⟨{ f with slot := none, closed := true }, ?_, hw, rfl⟩
      simp [Feed.items, next, htake, hset, hs]

end

/-- Lets the producer settle and takes the items up to the end, but so many at most. -/
def drain (producer : Producer σ S α) (moves most : Nat) (f : Feed S α) (o : Observed σ) :
    List (Item α) × Feed S α × Observed σ :=
  let (f, o) := f.settle producer moves o
  f.items producer moves most o

/-- A drained feed gives what its producer brings forth, and has ended. -/
theorem drain_of_brings {producer : Producer σ S α} {stage : S} {o o' : Observed σ} {stages : List S}
    {items : List (Item α)} {moves most : Nat} (h : producer.Brings stage o stages items o')
    (hm : stages.length + items.length + 2 ≤ moves) (hn : items.length < most) :
    ∃ f, (start stage).drain producer moves most o = (items, f, o') ∧ f.worker = .ended ∧ f.closed = true := by
  have hstart : Ahead producer (start stage) o stages items o' :=
    ⟨rfl, ⟨fun hf => (by cases hf), fun hw => (by cases hw)⟩, .running h⟩
  obtain ⟨f₁, o₁, stages₁, items₁, hset, h₁, ha₁, heq, hs₁, hi₁⟩ := hstart.settle hm
  have heq : items = inSlot f₁.slot ++ items₁ := heq
  have hmoves : stages₁.length + items₁.length + 2 ≤ moves := by omega
  have hmost : (inSlot f₁.slot ++ items₁).length < most := by rwa [← heq]
  obtain ⟨f₂, hitems, hw₂, hc₂⟩ := h₁.items_eq ha₁ hmoves hmost
  refine ⟨f₂, ?_, hw₂, hc₂⟩
  simp [drain, hset, hitems, heq]

/-! ## What a complete run has received -/

/-- The stage at which the producer has worked. -/
@[simp] def Event.stage? : Event σ S α → Option S
  | .worked _ before _ => some before
  | _ => none

/-- The stages at which the producer has worked. -/
def workedAt (es : List (Event σ S α)) : List S := es.filterMap Event.stage?

@[simp] theorem workedAt_nil : workedAt ([] : List (Event σ S α)) = [] := rfl

@[simp] theorem workedAt_cons (e : Event σ S α) (es : List (Event σ S α)) :
    workedAt (e :: es) = e.stage?.toList ++ workedAt es := by
  rw [workedAt, List.filterMap_cons]
  cases e.stage? <;> rfl

section

variable {producer : Producer σ S α} {stage : S} {f f' : Feed S α} {o o' : Observed σ} {es : List (Event σ S α)}

/-- When all is handed over as soon as the feed is closed or its end is in the slot, no taking changes that. -/
theorem Takes.keeps_ended {taken : Taken α} (ht : Takes f taken f') (hclosed : f.closed = true → f.worker = .ended)
    (hfinish : f.slot = some .finish → f.worker = .ended) :
    f'.worker = f.worker ∧ (f'.closed = true → f'.worker = .ended) ∧
      (f'.slot = some .finish → f'.worker = .ended) := by
  cases ht with
  | item => exact ⟨rfl, hclosed, fun hf => (by cases hf)⟩
  | finish => exact ⟨rfl, fun _ => hfinish rfl, fun hf => (by cases hf)⟩
  | waiting | again | closed => exact ⟨rfl, hclosed, hfinish⟩

/-- A run to the end of a feed shows what the producing side still brings forth at its beginning. -/
theorem worker_brings_of_runs (h : Runs producer undisturbed f o es f' o') (hend : f'.closed = true)
    (hopen : Event.closed ∉ es) (hclosed : f.closed = true → f.worker = .ended)
    (hfinish : f.slot = some .finish → f.worker = .ended) :
    f.worker.Brings producer o (workedAt es) (unreported f.worker ++ (emitted es ++ raised es)) o' := by
  induction h with
  | @nil f o =>
    rw [hclosed hend]
    exact .ended
  | @cons f f₁ f' o o₁ o' e es hs h ih =>
    have ih := ih hend (fun hm => hopen (List.mem_cons_of_mem _ hm))
    cases hs with
    | close => exact absurd (List.mem_cons_self ..) hopen
    | disturb h => exact h.elim
    | look hl =>
      rw [hl.eq] at ih
      exact ih hclosed hfinish
    | take ht =>
      obtain ⟨hw, hclosed', hfinish'⟩ := (take_cases ht).keeps_ended hclosed hfinish
      rw [← hw]
      exact ih hclosed' hfinish'
    | get ht =>
      obtain ⟨hw, hclosed', hfinish'⟩ := (get_cases ht).keeps_ended hclosed hfinish
      rw [← hw]
      exact ih hclosed' hfinish'
    | move hm he =>
      cases advance_cases hm he with
      | refuse | drop | vanish => cases hclosed rfl
      | accept hp =>
        cases ih (fun hc => by cases hclosed hc) fun hf => (by cases hf) with
        | running hb => exact .running (.offer hp hb)
      | work hp =>
        cases ih (fun hc => by cases hclosed hc) fun hf => (by cases hfinish hf) with
        | running hb => exact .running (.work hp hb)
      | finish hp =>
        have hb := ih (fun hc => by cases hclosed hc) fun hf => (by cases hfinish hf)
        obtain ⟨hworked, hnone, rfl⟩ := Worker.brings_finishing_iff.1 hb
        simp only [unreported_finishing, List.nil_append, List.append_eq_nil_iff] at hnone
        simpa [hworked, hnone] using Worker.Brings.running (.finish hp)
      | interrupt hp hi =>
        have hb := ih (fun hc => by cases hclosed hc) fun hf => (by cases hfinish hf)
        obtain ⟨hworked, hnone, rfl⟩ := Worker.brings_finishing_iff.1 hb
        simp only [unreported_finishing, List.nil_append, List.append_eq_nil_iff] at hnone
        simpa [hworked, hnone, hi, Failure.reported, Observed.failed] using Worker.Brings.running (.fail hp)
      | fail hp hi =>
        have hb := ih (fun hc => by cases hclosed hc) fun hf => (by cases hfinish hf)
        obtain ⟨hworked, hone, rfl⟩ := Worker.brings_reporting_iff.1 hb
        simp only [unreported_reporting, List.cons_append, List.nil_append, List.cons.injEq, true_and,
          List.append_eq_nil_iff] at hone
        simpa [hworked, hone, hi, Failure.reported, Observed.failed] using Worker.Brings.running (.fail hp)
      | report =>
        have hb := ih (fun hc => by cases hclosed hc) fun hf => (by cases hf)
        obtain ⟨hworked, hnone, rfl⟩ := Worker.brings_finishing_iff.1 hb
        simp only [unreported_finishing, List.nil_append, List.append_eq_nil_iff] at hnone
        simpa [hworked, hnone] using Worker.Brings.reporting
      | conclude =>
        have hb := ih (fun _ => rfl) fun _ => rfl
        obtain ⟨hworked, hnone, rfl⟩ := Worker.brings_ended_iff.1 hb
        simp only [unreported_ended, List.nil_append, List.append_eq_nil_iff] at hnone
        simpa [hworked, hnone] using Worker.Brings.finishing

/-- An undisturbed run to the end of a feed that its consumer has not closed. -/
structure Complete (producer : Producer σ S α) (stage : S) (o : Observed σ) (es : List (Event σ S α))
    (o' : Observed σ) : Prop where
  runs : ∃ f, Runs producer undisturbed (.start stage) o es f o'
  stopped : Event.took .stopped ∈ es
  unclosed : Event.closed ∉ es

/-- Whoever comes to the end of a feed has received what its producer brings forth. -/
theorem Complete.brings (h : Complete producer stage o es o') :
    producer.Brings stage o (workedAt es) (received es) o' := by
  obtain ⟨⟨f, h⟩, hend, hopen⟩ := h
  have hl := Ledger.of_runs h
  have hclosed := hl.closed_of_stopped hend
  have hb := worker_brings_of_runs h hclosed hopen (fun hc => by cases hc) fun hf => (by cases hf)
  cases hb with
  | running hb =>
    rw [(hl.complete hopen hclosed).2.2]
    exact hb

theorem Takes.closed_or_stopped {taken : Taken α} (ht : Takes f taken f') (hc : f'.closed = true) :
    f.closed = true ∨ taken = .stopped := by
  cases ht with
  | item | waiting => exact .inl hc
  | finish | again | closed => exact .inr rfl

/-- A feed is not closed but by a closing or by the taking of its end. -/
theorem stopped_of_closed {outside : Observed σ → Observed σ → Prop} (h : Runs producer outside f o es f' o')
    (hf : f.closed = false) (hc : f'.closed = true) (hopen : Event.closed ∉ es) : Event.took .stopped ∈ es := by
  have hkept : f'.closed = true → Event.closed ∈ es ∨ Event.took .stopped ∈ es := by
    refine h.keeps (P := fun es f _ => f.closed = true → Event.closed ∈ es ∨ Event.took .stopped ∈ es)
      (fun hc => ?_) fun {es f₁ o₁ e f₂ o₂} ih hs hc => ?_
    · rw [hf] at hc
      cases hc
    · have hbefore (h : f₁.closed = true) : Event.closed ∈ es ++ [e] ∨ Event.took .stopped ∈ es ++ [e] :=
        (ih h).imp (List.mem_append_left _) (List.mem_append_left _)
      cases hs with
      | move hm he =>
        have hsame : f₂.closed = f₁.closed := by cases advance_cases hm he <;> rfl
        exact hbefore (hsame ▸ hc)
      | close => exact .inl (by simp)
      | disturb => exact hbefore hc
      | look hl =>
        rw [hl.eq] at hc
        exact hbefore hc
      | take ht => exact ((take_cases ht).closed_or_stopped hc).elim hbefore fun h => .inr (by simp [h])
      | get ht => exact ((get_cases ht).closed_or_stopped hc).elim hbefore fun h => .inr (by simp [h])
  exact (hkept hc).resolve_left hopen

/-- What a producer brings forth can be received. -/
theorem exists_complete {stages : List S} {items : List (Item α)} (h : producer.Brings stage o stages items o') :
    ∃ es, Complete producer stage o es o' ∧ received es = items := by
  obtain ⟨f, hdrain, -, hc⟩ := drain_of_brings h (Nat.le_refl _) (Nat.lt_succ_self _)
  generalize stages.length + items.length + 2 = moves at hdrain
  obtain ⟨es, hes, hmoves⟩ := runs_settle producer undisturbed moves (start stage) o
  rcases hset : (start stage).settle producer moves o with ⟨f₁, o₁⟩
  simp only [hset] at hes
  simp only [drain, hset] at hdrain
  obtain ⟨fs, hfs, hr, hopen⟩ : Receives producer undisturbed f₁ o₁ _ _ _ :=
    receives_items moves items.length.succ f₁ o₁
  rw [hdrain] at hfs hr
  have hrun := hes.trans hfs
  have hunclosed : Event.closed ∉ es ++ fs := by simp [closed_notMem_of_moves hmoves, hopen]
  refine ⟨es ++ fs, ⟨⟨f, hrun⟩, stopped_of_closed hrun rfl hc hunclosed, hunclosed⟩, ?_⟩
  rw [received_append, received_eq_nil_of_moves hmoves, hr]
  rfl

end

end Feed

end BucketClient
