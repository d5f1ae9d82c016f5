import BucketClient.Feed.Basic

/-!
# Runs of a feed

A run of a feed is a sequence of steps in any order: moves of the producing side, takings of any number of consumers,
closings, and changes that others make to the state that the producer works on. Each step leaves an event. Looking
at whether the feed is closed may be a step of its own (`Looks`), so that others come between it and the going to the
slot.

* `advance_cases`, `take_cases` and `get_cases` say all that a move and a taking can do; every fact about runs goes back
  to them.
* `Runs.keeps`: what holds at first and is kept by each step holds after every run.
* `Ends`: the producing side, left to itself, comes to its end; no move and no settling changes that.
* `receives_calls`: calls of a consumer, each for one item, for the items or for the values, are a run that receives
  what the calls give.
-/

namespace BucketClient.Feed

variable {σ S α : Type}

/-! ## Events -/

/-- What happens at a feed. -/
inductive Event (σ S α : Type) where
  /-- The producer has worked by itself in some state, which took it from a stage to another. -/
  | worked (o : Observed σ) (before after : S)
  /-- An offer of the producer has been answered: whether its item was accepted. -/
  | answered (item : Item α) (accepted : Bool)
  /-- The producer has failed. -/
  | failed (error : Failure)
  /-- The producer has finished, or its failure or the end of the feed has been handed over. -/
  | passed
  /-- The consumer has taken. -/
  | took (taken : Taken α)
  /-- The feed has been closed. -/
  | closed
  /-- It has been looked at whether the feed is closed, or this is going to be looked at again. -/
  | looked
  /-- Others have changed the state, to this one. -/
  | disturbed (o : Observed σ)

namespace Event

/-- Whether the event is a move of the producing side. -/
def isMove : Event σ S α → Bool
  | .worked .. | .answered .. | .failed _ | .passed => true
  | _ => false

/-- The item that the consumer has received. -/
@[simp] def received? : Event σ S α → Option (Item α)
  | .took (.item item) => some item
  | _ => none

/-- The item that the producer has offered. -/
@[simp] def emitted? : Event σ S α → Option (Item α)
  | .answered item _ => some item
  | _ => none

/-- The item for the failure of the producer; an interrupt has none. -/
@[simp] def raised? : Event σ S α → Option (Item α)
  | .failed error => if error.isInterrupt then none else some (.failure error)
  | _ => none

/-- The answer to an offer. -/
@[simp] def answer? : Event σ S α → Option Bool
  | .answered _ accepted => some accepted
  | _ => none

end Event

/-- The items that the consumer has received. -/
def received (es : List (Event σ S α)) : List (Item α) := es.filterMap Event.received?

/-- The items that the producer has offered, whatever the answer was. -/
def emitted (es : List (Event σ S α)) : List (Item α) := es.filterMap Event.emitted?

/-- The item for the failure of the producer, if it has failed. -/
def raised (es : List (Event σ S α)) : List (Item α) := es.filterMap Event.raised?

/-- The answers to the offers of the producer. -/
def answersOf (es : List (Event σ S α)) : List Bool := es.filterMap Event.answer?

@[simp] theorem received_nil : received ([] : List (Event σ S α)) = [] := rfl

@[simp] theorem emitted_nil : emitted ([] : List (Event σ S α)) = [] := rfl

@[simp] theorem raised_nil : raised ([] : List (Event σ S α)) = [] := rfl

@[simp] theorem answersOf_nil : answersOf ([] : List (Event σ S α)) = [] := rfl

@[simp] theorem received_append (es fs : List (Event σ S α)) : received (es ++ fs) = received es ++ received fs :=
  List.filterMap_append

@[simp] theorem emitted_append (es fs : List (Event σ S α)) : emitted (es ++ fs) = emitted es ++ emitted fs :=
  List.filterMap_append

@[simp] theorem raised_append (es fs : List (Event σ S α)) : raised (es ++ fs) = raised es ++ raised fs :=
  List.filterMap_append

@[simp] theorem answersOf_append (es fs : List (Event σ S α)) : answersOf (es ++ fs) = answersOf es ++ answersOf fs :=
  List.filterMap_append

@[simp] theorem received_cons (e : Event σ S α) (es : List (Event σ S α)) :
    received (e :: es) = e.received?.toList ++ received es := by
  rw [received, List.filterMap_cons]
  cases e.received? <;> rfl

@[simp] theorem emitted_cons (e : Event σ S α) (es : List (Event σ S α)) :
    emitted (e :: es) = e.emitted?.toList ++ emitted es := by
  rw [emitted, List.filterMap_cons]
  cases e.emitted? <;> rfl

@[simp] theorem raised_cons (e : Event σ S α) (es : List (Event σ S α)) :
    raised (e :: es) = e.raised?.toList ++ raised es := by
  rw [raised, List.filterMap_cons]
  cases e.raised? <;> rfl

@[simp] theorem answersOf_cons (e : Event σ S α) (es : List (Event σ S α)) :
    answersOf (e :: es) = e.answer?.toList ++ answersOf es := by
  rw [answersOf, List.filterMap_cons]
  cases e.answer? <;> rfl

theorem received_eq_nil_of_moves {es : List (Event σ S α)} (h : ∀ e ∈ es, e.isMove = true) : received es = [] := by
  refine List.filterMap_eq_nil_iff.2 fun e he => ?_
  have hm := h e he
  cases e with
  | took => cases hm
  | _ => rfl

theorem closed_notMem_of_moves {es : List (Event σ S α)} (h : ∀ e ∈ es, e.isMove = true) : Event.closed ∉ es := by
  intro hc
  cases h _ hc

/-! ## Steps -/

/-- What the next move of the producing side tells. -/
def event (producer : Producer σ S α) (f : Feed S α) (o : Observed σ) : Event σ S α :=
  match f.worker with
  | .running stage => match producer stage with
    | .offer item _ => .answered item f.admits
    | .work run => .worked o stage (run o).1
    | .fail error => .failed error
    | .wait | .finish => .passed
  | _ => .passed

/-- Something begins at an open feed, or gives a full slot up. -/
inductive Looks (producer : Producer σ S α) : Feed S α → Feed S α → Prop
  | offer {f : Feed S α} (hc : f.closed = false) (hp : f.offers producer = true) : Looks producer f f.beginOffer
  | lapse {f : Feed S α} (hs : f.slot ≠ none) : Looks producer f f.lapse
  | taking {f : Feed S α} (hc : f.closed = false) : Looks producer f f.beginTaking

/-- One step of a feed. `outside` is how others may change the state, between two steps only: all that the producer does
in one piece, such as the fetch of a page, is one step. -/
inductive Step (producer : Producer σ S α) (outside : Observed σ → Observed σ → Prop) :
    Feed S α → Observed σ → Event σ S α → Feed S α → Observed σ → Prop
  | move {f f' : Feed S α} {o o' : Observed σ} {e : Event σ S α} (h : f.advance producer o = some (f', o'))
      (he : f.event producer o = e) : Step producer outside f o e f' o'
  | take {f f' : Feed S α} {o : Observed σ} {taken : Taken α} (h : f.take = (taken, f')) :
      Step producer outside f o (.took taken) f' o
  /-- A taking that has begun comes to the slot. -/
  | get {f f' : Feed S α} {o : Observed σ} {taken : Taken α} (h : f.get? = some (taken, f')) :
      Step producer outside f o (.took taken) f' o
  | look {f f' : Feed S α} {o : Observed σ} (h : Looks producer f f') : Step producer outside f o .looked f' o
  | close {f : Feed S α} {o : Observed σ} : Step producer outside f o .closed f.close o
  | disturb {f : Feed S α} {o o' : Observed σ} (h : outside o o') : Step producer outside f o (.disturbed o') f o'

/-- Steps one after the other, with their events. -/
inductive Runs (producer : Producer σ S α) (outside : Observed σ → Observed σ → Prop) :
    Feed S α → Observed σ → List (Event σ S α) → Feed S α → Observed σ → Prop
  | nil {f : Feed S α} {o : Observed σ} : Runs producer outside f o [] f o
  | cons {f f₁ f' : Feed S α} {o o₁ o' : Observed σ} {e : Event σ S α} {es : List (Event σ S α)}
      (h : Step producer outside f o e f₁ o₁) (hs : Runs producer outside f₁ o₁ es f' o') :
      Runs producer outside f o (e :: es) f' o'

/-- Nothing but the feed changes the state. -/
def undisturbed : Observed σ → Observed σ → Prop := fun _ _ => False

/-! ## What a step can do -/

/-- All that a move of the producing side can do. -/
inductive Moves (producer : Producer σ S α) :
    Feed S α → Observed σ → Event σ S α → Feed S α → Observed σ → Prop
  /-- The item goes into the slot. -/
  | accept {stage : S} {item : Item α} {next : Bool → S} {closed : Bool} {answers : List Bool} {begun : Begun}
      {o : Observed σ} (h : producer stage = .offer item next) (ha : closed = false ∨ begun.offer = true) :
      Moves producer ⟨.running stage, none, closed, answers, begun⟩ o (.answered item true)
        ⟨.running (next true), some (.item item), closed, answers ++ [true], { begun with offer := false }⟩ o
  | refuse {stage : S} {item : Item α} {next : Bool → S} {slot : Option (Signal α)} {answers : List Bool}
      {begun : Begun} {o : Observed σ} (h : producer stage = .offer item next)
      (hr : begun.offer = false ∨ slot ≠ none) :
      Moves producer ⟨.running stage, slot, true, answers, begun⟩ o (.answered item false)
        ⟨.running (next false), slot, true, answers ++ [false], { begun with offer := false }⟩ o
  | work {stage : S} {run : Observed σ → S × Observed σ} {slot : Option (Signal α)} {closed : Bool}
      {answers : List Bool} {begun : Begun} {o : Observed σ} (h : producer stage = .work run) :
      Moves producer ⟨.running stage, slot, closed, answers, begun⟩ o (.worked o stage (run o).1)
        ⟨.running (run o).1, slot, closed, answers, begun⟩ (run o).2
  | finish {stage : S} {slot : Option (Signal α)} {closed : Bool} {answers : List Bool} {begun : Begun}
      {o : Observed σ} (h : producer stage = .finish) :
      Moves producer ⟨.running stage, slot, closed, answers, begun⟩ o .passed
        ⟨.finishing, slot, closed, answers, begun⟩ o
  | interrupt {stage : S} {error : Failure} {slot : Option (Signal α)} {closed : Bool} {answers : List Bool}
      {begun : Begun} {o : Observed σ} (h : producer stage = .fail error) (hi : error.isInterrupt = true) :
      Moves producer ⟨.running stage, slot, closed, answers, begun⟩ o (.failed error)
        ⟨.finishing, slot, closed, answers, begun⟩ o
  | fail {stage : S} {error : Failure} {slot : Option (Signal α)} {closed : Bool} {answers : List Bool}
      {begun : Begun} {o : Observed σ} (h : producer stage = .fail error) (hi : error.isInterrupt = false) :
      Moves producer ⟨.running stage, slot, closed, answers, begun⟩ o (.failed error)
        ⟨.reporting error, slot, closed, answers, begun⟩ (o.log (failureRecord error))
  /-- The failure goes into the slot. -/
  | report {error : Failure} {closed : Bool} {answers : List Bool} {begun : Begun} {o : Observed σ}
      (ha : closed = false ∨ begun.offer = true) :
      Moves producer ⟨.reporting error, none, closed, answers, begun⟩ o .passed
        ⟨.finishing, some (.item (.failure error)), closed, answers, { begun with offer := false }⟩ o
  /-- The failure is dropped by a closed feed. -/
  | drop {error : Failure} {slot : Option (Signal α)} {answers : List Bool} {begun : Begun} {o : Observed σ}
      (hr : begun.offer = false ∨ slot ≠ none) :
      Moves producer ⟨.reporting error, slot, true, answers, begun⟩ o .passed
        ⟨.finishing, slot, true, answers, { begun with offer := false }⟩ o
  /-- The end goes into the slot. -/
  | conclude {closed : Bool} {answers : List Bool} {begun : Begun} {o : Observed σ}
      (ha : closed = false ∨ begun.offer = true) :
      Moves producer ⟨.finishing, none, closed, answers, begun⟩ o .passed
        ⟨.ended, some .finish, closed, answers, { begun with offer := false }⟩ o
  /-- The end is dropped by a closed feed. -/
  | vanish {slot : Option (Signal α)} {answers : List Bool} {begun : Begun} {o : Observed σ}
      (hr : begun.offer = false ∨ slot ≠ none) :
      Moves producer ⟨.finishing, slot, true, answers, begun⟩ o .passed
        ⟨.ended, slot, true, answers, { begun with offer := false }⟩ o

/-- What `put` does: the signal goes into an empty slot of a feed that is open or was found open, and a closed feed lets
it pass otherwise. -/
theorem put_cases {signal : Signal α} {next : Worker S} {f f' : Feed S α} (h : f.put signal next = some f') :
    (f.admits = true ∧ f.slot = none ∧ (f.closed = false ∨ f.begun.offer = true) ∧
      f' = { f with worker := next, slot := some signal, begun := { f.begun with offer := false } }) ∨
    (f.admits = false ∧ f.closed = true ∧ (f.begun.offer = false ∨ f.slot ≠ none) ∧
      f' = { f with worker := next, begun := { f.begun with offer := false } }) := by
  unfold put at h
  cases ha : f.admits with
  | true =>
    simp only [ha, if_true] at h
    cases hs : f.slot with
    | none =>
      simp only [hs, Option.some.injEq] at h
      simp only [admits, hs, Option.isNone_none, Bool.and_true, Bool.or_eq_true, Bool.not_eq_true'] at ha
      exact .inl ⟨rfl, rfl, ha, h.symm⟩
    | some signal => simp [hs] at h
  | false =>
    simp only [ha, Bool.false_eq_true, if_false, Option.some.injEq] at h
    simp only [admits, Bool.or_eq_false_iff, Bool.not_eq_false', Bool.and_eq_false_iff] at ha
    exact .inr ⟨rfl, ha.1, ha.2.imp_right fun hs hn => (by simp [hn] at hs), h.symm⟩

/-- A closed feed admits nothing but what has begun to be offered and finds the slot empty. -/
theorem admits_of_closed {f : Feed S α} (hc : f.closed = true) : f.admits = (f.begun.offer && f.slot.isNone) := by
  simp [admits, hc]

/-- A closed feed holds nothing up. -/
theorem exists_put_of_closed (signal : Signal α) (next : Worker S) {f : Feed S α} (hc : f.closed = true) :
    ∃ f', f.put signal next = some f' ∧ f'.closed = true ∧ f'.worker = next := by
  cases hput : f.put signal next with
  | some f' =>
    refine ⟨f', rfl, ?_⟩
    rcases put_cases hput with ⟨-, -, -, rfl⟩ | ⟨-, -, -, rfl⟩
    · exact ⟨hc, rfl⟩
    · exact ⟨hc, rfl⟩
  | none =>
    -- only a full slot would hold the signal up, and a closed feed does not admit anything to that
    have hadmits := admits_of_closed hc
    unfold put at hput
    cases ha : f.admits with
    | false => simp [ha] at hput
    | true =>
      rw [ha, eq_comm, Bool.and_eq_true, Option.isNone_iff_eq_none] at hadmits
      simp [ha, hadmits.2] at hput

/-- An offer to a closed feed is answered at once. -/
theorem advance_of_closed {producer : Producer σ S α} {f : Feed S α} {stage : S} {item : Item α} {next : Bool → S}
    (hc : f.closed = true) (hw : f.worker = .running stage) (hp : producer stage = .offer item next) (o : Observed σ) :
    f.advance producer o =
      some ({ f with
        worker := .running (next f.admits)
        slot := if f.admits then some (.item item) else f.slot
        answers := f.answers ++ [f.admits]
        begun := { f.begun with offer := false } }, o) := by
  have hadmits := admits_of_closed hc
  simp only [advance, put, hw, hp]
  cases ha : f.admits with
  | false => simp
  | true =>
    rw [ha, eq_comm, Bool.and_eq_true, Option.isNone_iff_eq_none] at hadmits
    simp [hadmits.2]

theorem advance_cases {producer : Producer σ S α} {f f' : Feed S α} {o o' : Observed σ} {e : Event σ S α}
    (h : f.advance producer o = some (f', o')) (he : f.event producer o = e) : Moves producer f o e f' o' := by
  subst he
  obtain ⟨worker, slot, closed, answers, begun⟩ := f
  cases worker with
  | running stage =>
    cases hp : producer stage with
    | offer item next =>
      simp only [advance, hp, Option.map_eq_some_iff] at h
      obtain ⟨f₁, hput, h⟩ := h
      cases h
      simp only [event, hp]
      rcases put_cases hput with ⟨ha, hs, hopen, rfl⟩ | ⟨ha, hc, hr, rfl⟩
      · obtain rfl : slot = none := hs
        rw [ha]
        exact .accept hp hopen
      · obtain rfl : closed = true := hc
        rw [ha]
        exact .refuse hp hr
    | work run =>
      simp only [advance, hp] at h
      cases h
      simp only [event, hp]
      exact .work hp
    | wait => simp [advance, hp] at h
    | finish =>
      simp only [advance, hp] at h
      cases h
      simp only [event, hp]
      exact .finish hp
    | fail error =>
      simp only [event, hp]
      cases hi : error.isInterrupt with
      | true =>
        simp only [advance, hp, hi, if_true] at h
        cases h
        exact .interrupt hp hi
      | false =>
        simp only [advance, hp, hi, Bool.false_eq_true, if_false] at h
        cases h
        exact .fail hp hi
  | reporting error =>
    simp only [advance, Option.map_eq_some_iff] at h
    obtain ⟨f₁, hput, h⟩ := h
    cases h
    rcases put_cases hput with ⟨-, hs, hopen, rfl⟩ | ⟨-, hc, hr, rfl⟩
    · obtain rfl : slot = none := hs
      exact .report hopen
    · obtain rfl : closed = true := hc
      exact .drop hr
  | finishing =>
    simp only [advance, Option.map_eq_some_iff] at h
    obtain ⟨f₁, hput, h⟩ := h
    cases h
    rcases put_cases hput with ⟨-, hs, hopen, rfl⟩ | ⟨-, hc, hr, rfl⟩
    · obtain rfl : slot = none := hs
      exact .conclude hopen
    · obtain rfl : closed = true := hc
      exact .vanish hr
  | ended => cases h

/-- How what has begun changes with a taking that comes to the slot: either the taking looks just now and finds the feed
open, or it has begun before. -/
inductive Comes : Bool → Begun → Begun → Prop
  | now {begun : Begun} : Comes false begun begun
  | begun {closed offer : Bool} {takings : Nat} : Comes closed ⟨offer, takings + 1⟩ ⟨offer, takings⟩

theorem Comes.offer_eq {closed : Bool} {begun begun' : Begun} (h : Comes closed begun begun') :
    begun'.offer = begun.offer := by
  cases h <;> rfl

theorem Comes.takings_eq {closed : Bool} {begun begun' : Begun} (h : Comes closed begun begun') (hc : closed = true) :
    begun.takings = begun'.takings + 1 := by
  cases h with
  | now => cases hc
  | begun => rfl

/-- All that a taking can do. -/
inductive Takes : Feed S α → Taken α → Feed S α → Prop
  | item {worker : Worker S} {item : Item α} {closed : Bool} {answers : List Bool} {begun begun' : Begun}
      (h : Comes closed begun begun') :
      Takes ⟨worker, some (.item item), closed, answers, begun⟩ (.item item) ⟨worker, none, closed, answers, begun'⟩
  /-- The end of the feed is taken, which closes it. -/
  | finish {worker : Worker S} {closed : Bool} {answers : List Bool} {begun begun' : Begun}
      (h : Comes closed begun begun') :
      Takes ⟨worker, some .finish, closed, answers, begun⟩ .stopped ⟨worker, none, true, answers, begun'⟩
  | waiting {worker : Worker S} {answers : List Bool} {begun begun' : Begun} (h : Comes false begun begun') :
      Takes ⟨worker, none, false, answers, begun⟩ .waiting ⟨worker, none, false, answers, begun'⟩
  /-- At an empty slot a taking looks again, and finds the feed closed. -/
  | again {worker : Worker S} {answers : List Bool} {begun begun' : Begun} (h : Comes true begun begun') :
      Takes ⟨worker, none, true, answers, begun⟩ .stopped ⟨worker, none, true, answers, begun'⟩
  | closed {worker : Worker S} {slot : Option (Signal α)} {answers : List Bool} {begun : Begun} :
      Takes ⟨worker, slot, true, answers, begun⟩ .stopped ⟨worker, slot, true, answers, begun⟩

theorem take_cases {f f' : Feed S α} {taken : Taken α} (h : f.take = (taken, f')) : Takes f taken f' := by
  obtain ⟨worker, slot, closed, answers, begun⟩ := f
  cases closed with
  | true => cases h; exact .closed
  | false =>
    cases slot with
    | none => cases h; exact .waiting .now
    | some signal =>
      cases signal with
      | item item => cases h; exact .item .now
      | finish => cases h; exact .finish .now

theorem get_cases {f f' : Feed S α} {taken : Taken α} (h : f.get? = some (taken, f')) : Takes f taken f' := by
  obtain ⟨worker, slot, closed, answers, offer, takings⟩ := f
  cases takings with
  | zero => cases h
  | succ takings =>
    cases slot with
    | none =>
      cases closed with
      | true => cases h; exact .again .begun
      | false => cases h; exact .waiting .begun
    | some signal =>
      cases signal with
      | item item => cases h; exact .item .begun
      | finish => cases h; exact .finish .begun

/-- A taking does nothing to the producing side. -/
theorem Takes.worker_eq {f f' : Feed S α} {taken : Taken α} (ht : Takes f taken f') : f'.worker = f.worker := by
  cases ht <;> rfl

/-- Nothing of a feed changes by looking but what has begun. -/
theorem Looks.eq {producer : Producer σ S α} {f f' : Feed S α} (h : Looks producer f f') :
    f' = { f with begun := f'.begun } := by
  cases h <;> rfl

/-! ## Runs -/

section

variable {producer : Producer σ S α} {outside : Observed σ → Observed σ → Prop} {f f₁ f' : Feed S α}
  {o o₁ o' : Observed σ} {es fs : List (Event σ S α)}

theorem Runs.trans (h : Runs producer outside f o es f₁ o₁) (h' : Runs producer outside f₁ o₁ fs f' o') :
    Runs producer outside f o (es ++ fs) f' o' := by
  induction h with
  | nil => exact h'
  | cons hs _ ih => exact .cons hs (ih h')

theorem Runs.of_append (h : Runs producer outside f o (es ++ fs) f' o') :
    ∃ f₁ o₁, Runs producer outside f o es f₁ o₁ ∧ Runs producer outside f₁ o₁ fs f' o' := by
  induction es generalizing f o with
  | nil => exact ⟨f, o, .nil, h⟩
  | cons e es ih =>
    cases h with
    | cons hs h =>
      obtain ⟨f₁, o₁, hes, hfs⟩ := ih h
      exact ⟨f₁, o₁, .cons hs hes, hfs⟩

/-- What holds at first and is kept by each step holds after every run. -/
theorem Runs.keeps {P : List (Event σ S α) → Feed S α → Observed σ → Prop} (h0 : P [] f o)
    (hstep : ∀ {es f o e f' o'}, P es f o → Step producer outside f o e f' o' → P (es ++ [e]) f' o')
    (h : Runs producer outside f o es f' o') : P es f' o' := by
  have hpast : ∀ past, P past f o → P (past ++ es) f' o' := by
    clear h0
    induction h with
    | nil =>
      intro past hp
      rwa [List.append_nil]
    | @cons _ _ _ _ _ _ e es hs _ ih =>
      intro past hp
      have hnext := ih (past ++ [e]) (hstep hp hs)
      rwa [List.append_assoc] at hnext
  exact hpast [] h0

end

/-! ## Settling -/

section

variable {producer : Producer σ S α} {f f' : Feed S α} {o o' : Observed σ} {e : Event σ S α}

theorem closed_of_moves (hm : Moves producer f o e f' o') : f'.closed = f.closed := by
  cases hm <;> rfl

/-- The producing side may pause while it settles. -/
theorem settle_add (producer : Producer σ S α) (moves more : Nat) (f : Feed S α) (o : Observed σ) :
    f.settle producer (moves + more) o =
      (f.settle producer moves o).1.settle producer more (f.settle producer moves o).2 := by
  induction moves generalizing f o with
  | zero =>
    rw [Nat.zero_add]
    rfl
  | succ moves ih =>
    rw [Nat.succ_add_eq_add_succ, Nat.add_succ, settle, settle]
    cases h : f.advance producer o with
    | some s => exact ih s.1 s.2
    | none =>
      cases more with
      | zero => rfl
      | succ more => simp only [settle, h]

theorem ended_of_alive (h : f.alive = false) : f.worker = .ended := by
  unfold alive at h
  split at h
  · assumption
  · cases h

variable (producer) in
/-- Left to itself, the producing side comes to its end. -/
def Ends (f : Feed S α) (o : Observed σ) : Prop :=
  ∃ moves, (f.settle producer moves o).1.alive = false

theorem ends_iff_of_advance (h : f.advance producer o = some (f', o')) : f.Ends producer o ↔ f'.Ends producer o' := by
  constructor
  · rintro ⟨moves, hend⟩
    cases moves with
    | zero =>
      have hw := ended_of_alive hend
      simp only [settle] at hw
      simp [advance, hw] at h
    | succ moves =>
      rw [settle, h] at hend
      exact ⟨moves, hend⟩
  · rintro ⟨moves, hend⟩
    refine ⟨moves + 1, ?_⟩
    rw [settle, h]
    exact hend

theorem ends_settle_iff (moves : Nat) :
    (f.settle producer moves o).1.Ends producer (f.settle producer moves o).2 ↔ f.Ends producer o := by
  induction moves generalizing f o with
  | zero => exact Iff.rfl
  | succ moves ih =>
    rw [settle]
    cases h : f.advance producer o with
    | some s => exact ih.trans (ends_iff_of_advance h).symm
    | none => exact Iff.rfl

end

/-! ## The calls of a consumer -/

section

variable (producer : Producer σ S α) (outside : Observed σ → Observed σ → Prop) (moves : Nat)

theorem isMove_event (f : Feed S α) (o : Observed σ) : (f.event producer o).isMove = true := by
  unfold event
  cases f.worker with
  | running stage => dsimp only; cases producer stage <;> rfl
  | _ => rfl

/-- When the producing side has ended there is nothing to settle. -/
theorem settle_of_ended {f : Feed S α} (hw : f.worker = .ended) (o : Observed σ) :
    f.settle producer moves o = (f, o) := by
  cases moves with
  | zero => rfl
  | succ moves => simp [settle, advance, hw]

/-- Letting the producer settle is a run of its moves. -/
theorem runs_settle (f : Feed S α) (o : Observed σ) :
    ∃ es, Runs producer outside f o es (f.settle producer moves o).1 (f.settle producer moves o).2 ∧
      ∀ e ∈ es, e.isMove = true := by
  induction moves generalizing f o with
  | zero => exact ⟨[], .nil, List.forall_mem_nil _⟩
  | succ moves ih =>
    cases h : f.advance producer o with
    | none =>
      refine ⟨[], ?_, List.forall_mem_nil _⟩
      simp only [settle, h]
      exact .nil
    | some s =>
      obtain ⟨es, hes, hm⟩ := ih s.1 s.2
      refine ⟨f.event producer o :: es, ?_, List.forall_mem_cons.2 ⟨isMove_event producer f o, hm⟩⟩
      simp only [settle, h]
      exact .cons (.move h rfl) hes

/-- Taking once is a run that begins with what was taken. -/
theorem runs_next (f : Feed S α) (o : Observed σ) :
    ∃ es, Runs producer outside f o (.took (f.next producer moves o).1 :: es) (f.next producer moves o).2.1
        (f.next producer moves o).2.2 ∧ ∀ e ∈ es, e.isMove = true := by
  obtain ⟨es, hes, hm⟩ := runs_settle producer outside moves f.take.2 o
  exact ⟨es, .cons (.take rfl) hes, hm⟩

/-- A call of a consumer. -/
inductive Call where
  /-- Takes once. -/
  | next
  /-- Iterates over the items, for so many at most. -/
  | items (most : Nat)
  /-- Iterates over the values, for so many at most. -/
  | values (most : Nat)

/-- What a call gives: the items that the consumer receives, the one for a failure of the values included, with the
feed and the state after it. -/
def call (f : Feed S α) (o : Observed σ) : Call → List (Item α) × Feed S α × Observed σ
  | .next => match f.next producer moves o with
    | (.item item, f, o) => ([item], f, o)
    | (_, f, o) => ([], f, o)
  | .items most => f.items producer moves most o
  | .values most =>
    let (values, error, f, o) := f.values producer moves most o
    (values.map .value ++ error.toList.map .failure, f, o)

/-- The consumer receives these items in a run from a feed to another, and does not close it. -/
def Receives (f : Feed S α) (o : Observed σ) (items : List (Item α)) (f' : Feed S α) (o' : Observed σ) : Prop :=
  ∃ es, Runs producer outside f o es f' o' ∧ received es = items ∧ Event.closed ∉ es

variable {producer outside}

theorem Receives.nil {f : Feed S α} {o : Observed σ} : Receives producer outside f o [] f o :=
  ⟨[], .nil, rfl, List.not_mem_nil⟩

/-- What is taken first is received first. -/
theorem receives_of_next {f f₁ f' : Feed S α} {o o₁ o' : Observed σ} {taken : Taken α} {items : List (Item α)}
    (h : f.next producer moves o = (taken, f₁, o₁)) (hr : Receives producer outside f₁ o₁ items f' o') :
    Receives producer outside f o ((Event.took taken : Event σ S α).received?.toList ++ items) f' o' := by
  obtain ⟨es, hes, hm⟩ := runs_next producer outside moves f o
  obtain ⟨fs, hfs, rfl, hc⟩ := hr
  rw [h] at hes
  refine ⟨_, hes.trans hfs, ?_, ?_⟩
  · simp [received_eq_nil_of_moves hm]
  · simp [closed_notMem_of_moves hm, hc]

theorem receives_items (most : Nat) (f : Feed S α) (o : Observed σ) :
    Receives producer outside f o (f.items producer moves most o).1 (f.items producer moves most o).2.1
      (f.items producer moves most o).2.2 := by
  induction most generalizing f o with
  | zero => exact .nil
  | succ most ih =>
    rcases h : f.next producer moves o with ⟨taken, f₁, o₁⟩
    simp only [items, h]
    cases taken with
    | item item => exact receives_of_next moves h (ih f₁ o₁)
    | stopped => exact receives_of_next moves h .nil
    | waiting => exact receives_of_next moves h .nil

theorem receives_values (most : Nat) (f : Feed S α) (o : Observed σ) :
    Receives producer outside f o (f.call producer moves o (.values most)).1
      (f.call producer moves o (.values most)).2.1 (f.call producer moves o (.values most)).2.2 := by
  simp only [call]
  induction most generalizing f o with
  | zero => exact .nil
  | succ most ih =>
    rcases h : f.next producer moves o with ⟨taken, f₁, o₁⟩
    simp only [values, h]
    cases taken with
    | item item =>
      cases item with
      | value value => exact receives_of_next moves h (ih f₁ o₁)
      | failure error => exact receives_of_next moves h .nil
    | stopped => exact receives_of_next moves h .nil
    | waiting => exact receives_of_next moves h .nil

/-- Each call of a consumer is a run that receives what the call gives. -/
theorem receives_call (c : Call) (f : Feed S α) (o : Observed σ) :
    Receives producer outside f o (f.call producer moves o c).1 (f.call producer moves o c).2.1
      (f.call producer moves o c).2.2 := by
  cases c with
  | next =>
    rcases h : f.next producer moves o with ⟨taken, f₁, o₁⟩
    simp only [call, h]
    cases taken with
    | item item => exact receives_of_next moves h .nil
    | stopped => exact receives_of_next moves h .nil
    | waiting => exact receives_of_next moves h .nil
  | items most => exact receives_items moves most f o
  | values most => exact receives_values moves most f o

theorem Receives.trans {f f₁ f' : Feed S α} {o o₁ o' : Observed σ} {items more : List (Item α)}
    (h : Receives producer outside f o items f₁ o₁) (h' : Receives producer outside f₁ o₁ more f' o') :
    Receives producer outside f o (items ++ more) f' o' := by
  obtain ⟨es, hes, rfl, hc⟩ := h
  obtain ⟨fs, hfs, rfl, hc'⟩ := h'
  exact ⟨es ++ fs, hes.trans hfs, received_append es fs, by simp [hc, hc']⟩

variable (producer) in
/-- What calls give one after the other, each with the number of moves that the producer makes at most between two
takings. -/
def calls (f : Feed S α) (o : Observed σ) : List (Call × Nat) → List (Item α) × Feed S α × Observed σ
  | [] => ([], f, o)
  | (c, moves) :: rest =>
    let (items, f, o) := f.call producer moves o c
    let (more, f, o) := calls f o rest
    (items ++ more, f, o)

theorem receives_calls (cs : List (Call × Nat)) (f : Feed S α) (o : Observed σ) :
    Receives producer outside f o (f.calls producer o cs).1 (f.calls producer o cs).2.1
      (f.calls producer o cs).2.2 := by
  induction cs generalizing f o with
  | nil => exact .nil
  | cons c rest ih => exact (receives_call c.2 c.1 f o).trans (ih _ _)

end

end BucketClient.Feed
