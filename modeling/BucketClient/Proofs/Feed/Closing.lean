import BucketClient.Listing.Walk
import BucketClient.Proofs.Feed.Delivery

/-!
# Closing a feed

A feed is closed by a consumer, who calls for it, leaves the block that reads it or lets go of it, and by its end when
that is taken. Who comes to a closed feed gets nothing: a taking is stopped, an offer is refused, and none is held up.

Who has found the feed open before it was closed may still come to its slot (`Since`, kept by every step of a closed
feed). So a taking that has begun gets what is in the slot, and the offer that has begun is accepted when the slot is
empty. Nobody else receives anything, and no other offer is accepted.

The producer of a walk ends with the first refusal (`Walk.Over`), so it makes no request after that. Both are put
together in `after_closing`; `goes_on_after_closing` shows what closing does not prevent.
-/

namespace BucketClient

namespace Feed

variable {σ S α : Type}

/-- Whether the producer itself has done something: it has worked, made an offer or failed. -/
def Event.byProducer : Event σ S α → Bool
  | .worked .. | .answered .. | .failed _ => true
  | _ => false

/-- How a feed comes to be closed. -/
inductive Closes (f : Feed S α) : Feed S α → Prop
  | close : Closes f f.close
  /-- The end of the feed is taken. -/
  | finish {f₁ : Feed S α} (h : f.take = (.stopped, f₁) ∨ f.get? = some (.stopped, f₁)) : Closes f f₁

theorem Takes.closed_of_stopped {f f₁ : Feed S α} (h : Takes f .stopped f₁) : f₁.closed = true := by
  cases h <;> rfl

theorem Takes.closed_of_closed {f f' : Feed S α} {taken : Taken α} (ht : Takes f taken f') (hc : f.closed = true) :
    f'.closed = true := by
  cases ht with
  | finish => rfl
  | item | waiting | again | closed => exact hc

theorem Closes.closed {f f₁ : Feed S α} (h : f.Closes f₁) : f₁.closed = true := by
  cases h with
  | close => rfl
  | finish h =>
    rcases h with h | h
    · exact (take_cases h).closed_of_stopped
    · exact (get_cases h).closed_of_stopped

/-- The item of the offer that has begun, if there is one. -/
def inHand (producer : Producer σ S α) (f : Feed S α) : List (Item α) :=
  if f.begun.offer then match f.worker with
    | .running stage => match producer stage with
      | .offer item _ => [item]
      | _ => []
    | .reporting error => [.failure error]
    | _ => []
  else []

/-! ## What has begun -/

/-- No offer has begun but one that the producing side is about to make. -/
def Poised (producer : Producer σ S α) (f : Feed S α) : Prop :=
  f.begun.offer = true → f.offers producer = true

section

variable {producer : Producer σ S α} {outside : Observed σ → Observed σ → Prop} {f₁ f f' : Feed S α}
  {o o' : Observed σ} {es : List (Event σ S α)} {e : Event σ S α}

theorem Takes.begun_offer_eq {taken : Taken α} (ht : Takes f taken f') : f'.begun.offer = f.begun.offer := by
  cases ht with
  | item h | finish h | waiting h | again h => exact h.offer_eq
  | closed => rfl

theorem Poised.of_moves (h : f.Poised producer) (hm : Moves producer f o e f' o') : f'.Poised producer := by
  intro hbegun
  cases hm with
  | accept | refuse | report | drop | conclude | vanish => cases hbegun
  | work hp | finish hp | interrupt hp | fail hp =>
    have hoffers := h hbegun
    simp [offers, hp] at hoffers

theorem Poised.of_takes (h : f.Poised producer) {taken : Taken α} (ht : Takes f taken f') : f'.Poised producer := by
  intro hbegun
  rw [ht.begun_offer_eq] at hbegun
  simpa only [offers, ht.worker_eq] using h hbegun

theorem Poised.step (h : f.Poised producer) (hs : Step producer outside f o e f' o') : f'.Poised producer := by
  cases hs with
  | move hm he => exact h.of_moves (advance_cases hm he)
  | take ht => exact h.of_takes (take_cases ht)
  | get ht => exact h.of_takes (get_cases ht)
  | look hl =>
    cases hl with
    | offer _ hp => exact fun _ => hp
    | lapse => exact fun hbegun => (by cases hbegun)
    | taking => exact h
  | close => exact h
  | disturb => exact h

theorem poised_of_runs {stage : S} (h : Runs producer outside (.start stage) o es f o') : f.Poised producer :=
  h.keeps (P := fun _ f _ => f.Poised producer) (fun hbegun => by cases hbegun) fun hp hs => hp.step hs

theorem Closes.poised (h : f.Poised producer) (hc : f.Closes f₁) : f₁.Poised producer := by
  cases hc with
  | close => exact h
  | finish ht =>
    rcases ht with ht | ht
    · exact h.of_takes (take_cases ht)
    · exact h.of_takes (get_cases ht)

/-! ## What happens at a closed feed -/

/-- What has happened at a feed since it was closed. -/
structure Since (producer : Producer σ S α) (f₁ : Feed S α) (es : List (Event σ S α)) (f : Feed S α) : Prop where
  closed : f.closed = true
  /-- Only takings that had begun have received something, each one item at most. -/
  received_le : (received es).length + f.begun.takings ≤ f₁.begun.takings
  /-- What was in the slot has been received or is there still, with what the offer that had begun put there. -/
  handed : ∃ late, late <+: inHand producer f₁ ∧ received es ++ inSlot f.slot = inSlot f₁.slot ++ late
  later_refused : ∀ accepted ∈ (answersOf es).tail, accepted = false
  accepted : true ∈ answersOf es → f₁.begun.offer = true ∧ (f₁.slot = none ∨ 0 < f₁.begun.takings)
  /-- An offer that goes on is the one that had begun, and nothing has been put into the slot yet. -/
  offering : f.begun.offer = true → f₁.begun.offer = true ∧ f.worker = f₁.worker ∧ answersOf es = [] ∧
    received es ++ inSlot f.slot = inSlot f₁.slot ∧ (f.slot = f₁.slot ∨ f.begun.takings < f₁.begun.takings)

namespace Since

theorem start (hc : f₁.closed = true) : Since producer f₁ ([] : List (Event σ S α)) f₁ where
  closed := hc
  received_le := by simp
  handed := ⟨[], List.nil_prefix, by simp⟩
  later_refused := by simp
  accepted := by simp
  offering h := ⟨h, rfl, rfl, rfl, .inl rfl⟩

/-- An event with which nothing is received and nothing answered. -/
theorem pass (h : Since producer f₁ es f) (hr : e.received? = none) (ha : e.answer? = none) :
    Since producer f₁ (es ++ [e]) f := by
  have hreceived : received (es ++ [e]) = received es := by
    rw [received_append, received_cons, hr]
    exact List.append_nil _
  have hanswers : answersOf (es ++ [e]) = answersOf es := by
    rw [answersOf_append, answersOf_cons, ha]
    exact List.append_nil _
  constructor
  · exact h.closed
  · rw [hreceived]
    exact h.received_le
  · rw [hreceived]
    exact h.handed
  · rw [hanswers]
    exact h.later_refused
  · rw [hanswers]
    exact h.accepted
  · rw [hreceived, hanswers]
    exact h.offering

theorem tail_refused (h : Since producer f₁ es f) :
    ∀ accepted ∈ (answersOf es ++ [false]).tail, accepted = false := by
  have hlater := h.later_refused
  cases hanswers : answersOf es with
  | nil => simp
  | cons first rest =>
    rw [hanswers] at hlater
    simpa using hlater

/-- A move of the producing side. -/
theorem of_moves (hp : f₁.Poised producer) (h : Since producer f₁ es f) (hm : Moves producer f o e f' o') :
    Since producer f₁ (es ++ [e]) f' := by
  have htail := h.tail_refused
  obtain ⟨hclosed, hreceived, ⟨late, hlate, hhanded⟩, hlater, haccepted, hoffering⟩ := h
  cases hm with
  | @accept stage item next closed answers begun _ hstage ha =>
    obtain rfl : closed = true := hclosed
    obtain ⟨hbegun, hworker, hnone, hslot, hsame⟩ := hoffering (ha.resolve_left (by decide))
    have hhand : inHand producer f₁ = [item] := by simp [inHand, hbegun, ← hworker, hstage]
    refine ⟨rfl, by simpa using hreceived, ⟨[item], by simp [hhand], ?_⟩, by simp [hnone], fun _ => ⟨hbegun, ?_⟩,
      fun hf => (by cases hf)⟩
    · simpa using hslot
    · exact hsame.imp Eq.symm fun hlt => Nat.zero_lt_of_lt hlt
  | refuse =>
    refine ⟨rfl, by simpa using hreceived, ⟨late, hlate, by simpa using hhanded⟩, by simpa using htail, ?_,
      fun hf => (by cases hf)⟩
    intro htrue
    exact haccepted (by simpa using htrue)
  | @report error closed answers begun _ ha =>
    obtain rfl : closed = true := hclosed
    obtain ⟨hbegun, hworker, hnone, hslot, -⟩ := hoffering (ha.resolve_left (by decide))
    have hhand : inHand producer f₁ = [.failure error] := by simp [inHand, hbegun, ← hworker]
    refine ⟨rfl, by simpa using hreceived, ⟨[.failure error], by simp [hhand], ?_⟩, by simp [hnone], by simp [hnone],
      fun hf => (by cases hf)⟩
    simpa using hslot
  | drop | conclude | vanish =>
    refine ⟨hclosed, by simpa using hreceived, ⟨late, hlate, by simpa using hhanded⟩, by simpa using hlater,
      by simpa using haccepted, fun hf => (by cases hf)⟩
  | work hstage | finish hstage | interrupt hstage | fail hstage =>
    -- the producing side does something else, so it does not make an offer
    refine ⟨hclosed, by simpa using hreceived, ⟨late, hlate, by simpa using hhanded⟩, by simpa using hlater,
      by simpa using haccepted, fun hbegun => ?_⟩
    obtain ⟨hbegun, hworker, -⟩ := hoffering hbegun
    have hoffers := hp hbegun
    simp [offers, ← hworker, hstage] at hoffers

/-- A taking that had begun comes to the slot, and there is one less of those now. -/
theorem of_comes (h : Since producer f₁ es f) {taken : Taken α} (hc : f'.closed = true) (hw : f'.worker = f.worker)
    (ho : f'.begun.offer = f.begun.offer) (hn : f.begun.takings = f'.begun.takings + 1)
    (hs : (Event.took taken : Event σ S α).received?.toList ++ inSlot f'.slot = inSlot f.slot) :
    Since producer f₁ (es ++ [.took taken]) f' := by
  obtain ⟨hclosed, hreceived, ⟨late, hlate, hhanded⟩, hlater, haccepted, hoffering⟩ := h
  have hsame : received (es ++ [.took taken]) ++ inSlot f'.slot = received es ++ inSlot f.slot := by
    rw [received_append, received_cons, received_nil, List.append_nil, List.append_assoc, hs]
  have hone : (Event.took taken : Event σ S α).received?.toList.length ≤ 1 := Option.length_toList_le
  have hcount : (received (es ++ [.took taken])).length + f'.begun.takings ≤ f₁.begun.takings := by
    rw [received_append, received_cons, List.length_append, List.length_append, received_nil, List.length_nil]
    omega
  refine ⟨hc, hcount, ⟨late, hlate, hsame.trans hhanded⟩, by simpa using hlater, by simpa using haccepted,
    fun hbegun => ?_⟩
  obtain ⟨hbegun, hworker, hnone, hslot, -⟩ := hoffering (ho ▸ hbegun)
  exact ⟨hbegun, hw.trans hworker, by simpa using hnone, hsame.trans hslot, .inr (by omega)⟩

/-- A taking of a consumer. -/
theorem of_takes (h : Since producer f₁ es f) {taken : Taken α} (ht : Takes f taken f') :
    Since producer f₁ (es ++ [.took taken]) f' := by
  have hc := h.closed
  cases ht with
  | item hcomes => exact h.of_comes hc rfl hcomes.offer_eq (hcomes.takings_eq hc) (by simp)
  | finish hcomes => exact h.of_comes rfl rfl hcomes.offer_eq (hcomes.takings_eq hc) (by simp)
  | again hcomes => exact h.of_comes rfl rfl hcomes.offer_eq (hcomes.takings_eq rfl) (by simp)
  | waiting => cases hc
  | closed => exact h.pass rfl rfl

theorem step (hp : f₁.Poised producer) (h : Since producer f₁ es f) (hs : Step producer outside f o e f' o') :
    Since producer f₁ (es ++ [e]) f' := by
  cases hs with
  | move hm he => exact h.of_moves hp (advance_cases hm he)
  | take ht => exact h.of_takes (take_cases ht)
  | get ht => exact h.of_takes (get_cases ht)
  | close =>
    have hsame : f.close = f := by rw [close, ← h.closed]
    rw [hsame]
    exact h.pass rfl rfl
  | disturb => exact h.pass rfl rfl
  | look hl =>
    have hclosed := h.closed
    cases hl with
    | offer hc | taking hc => cases hc.symm.trans hclosed
    | lapse =>
      obtain ⟨-, hreceived, hhanded, hlater, haccepted, -⟩ := h.pass (e := .looked) rfl rfl
      exact ⟨hclosed, hreceived, hhanded, hlater, haccepted, fun hf => (by cases hf)⟩

theorem of_runs (hp : f₁.Poised producer) (hc : f₁.closed = true) (h : Runs producer outside f₁ o es f o') :
    Since producer f₁ es f :=
  h.keeps (P := fun es f _ => Since producer f₁ es f) (start hc) fun hs hstep => hs.step hp hstep

end Since

/-! ## Those who come to a closed feed -/

theorem next_of_closed (hc : f.closed = true) (o : Observed σ) (moves : Nat) :
    (f.next producer moves o).1 = .stopped := by
  simp [next, take, hc]

theorem call_of_closed (hc : f.closed = true) (o : Observed σ) (c : Call) (moves : Nat) :
    (f.call producer moves o c).1 = [] := by
  have hnext : (f.next producer moves o).1 = .stopped := next_of_closed hc o moves
  rcases h : f.next producer moves o with ⟨taken, f₁, o₁⟩
  rw [h] at hnext
  obtain rfl : taken = .stopped := hnext
  cases c with
  | next => simp [call, h]
  | items most => cases most <;> simp [call, items, h]
  | values most => cases most <;> simp [call, values, h]

theorem closed_of_step (hc : f.closed = true) (hs : Step producer outside f o e f' o') : f'.closed = true := by
  cases hs with
  | move hm he => exact (closed_of_moves (advance_cases hm he)).trans hc
  | take ht => exact (take_cases ht).closed_of_closed hc
  | get ht => exact (get_cases ht).closed_of_closed hc
  | look hl =>
    rw [hl.eq]
    exact hc
  | close => rfl
  | disturb => exact hc

theorem closed_of_runs (hc : f.closed = true) (h : Runs producer outside f o es f' o') : f'.closed = true :=
  h.keeps (P := fun _ f _ => f.closed = true) hc fun hk hs => closed_of_step hk hs

end

end Feed

/-! ## The producers of walks -/

namespace Walk

open Feed

variable {σ μ α : Type}

/-- The producer of a walk has nothing left to do. -/
inductive Over : Worker (Stage μ α) → Prop
  | finished : Over (.running .finished)
  | finishing : Over .finishing
  | ended : Over .ended

section

variable {walk : Walk σ μ α} {outside : Observed σ → Observed σ → Prop} {f f' : Feed (Stage μ α) α}
  {o o' : Observed σ} {es : List (Event σ (Stage μ α) α)} {e : Event σ (Stage μ α) α}

/-- The producer of a walk is finished when an offer is refused. -/
theorem next_false {stage : Stage μ α} {item : Item α} {next : Bool → Stage μ α}
    (h : walk.producer stage = .offer item next) : next false = .finished := by
  cases stage with
  | fetching => cases h
  | emitting left page =>
    cases left with
    | nil => cases h
    | cons entry left => cases entry <;> cases h; rfl
  | ending => cases h; rfl
  | failing => cases h
  | finished => cases h

theorem over_of_refused {item : Item α} (hm : Moves walk.producer f o (.answered item false) f' o') :
    Over f'.worker := by
  cases hm with
  | refuse h => rw [next_false h]; exact .finished

theorem Over.of_moves (h : Over f.worker) (hm : Moves walk.producer f o e f' o') :
    Over f'.worker ∧ e.byProducer = false := by
  cases hm with
  | accept hp => cases h; cases hp
  | refuse hp => cases h; cases hp
  | work hp => cases h; cases hp
  | finish => exact ⟨.finishing, rfl⟩
  | interrupt hp => cases h; cases hp
  | fail hp => cases h; cases hp
  | report => cases h
  | drop => cases h
  | conclude => exact ⟨.ended, rfl⟩
  | vanish => exact ⟨.ended, rfl⟩

theorem Over.step (h : Over f.worker) (hs : Step walk.producer outside f o e f' o') :
    Over f'.worker ∧ e.byProducer = false := by
  cases hs with
  | move hm he => exact h.of_moves (advance_cases hm he)
  | take ht =>
    rw [(take_cases ht).worker_eq]
    exact ⟨h, rfl⟩
  | get ht =>
    rw [(get_cases ht).worker_eq]
    exact ⟨h, rfl⟩
  | look hl =>
    rw [hl.eq]
    exact ⟨h, rfl⟩
  | close => exact ⟨h, rfl⟩
  | disturb => exact ⟨h, rfl⟩

/-- The producer of a walk does nothing after the first refusal. -/
theorem byProducer_eq_false_of_refused {item : Item α} {es₁ es₂ : List (Event σ (Stage μ α) α)}
    (h : Runs walk.producer outside f o (es₁ ++ .answered item false :: es₂) f' o') :
    ∀ e ∈ es₂, e.byProducer = false := by
  obtain ⟨f₁, o₁, -, h⟩ := h.of_append
  cases h with
  | @cons _ f₂ _ _ o₂ _ _ _ hs h =>
    have hover : Over f₂.worker := by
      cases hs with
      | move hm he => exact over_of_refused (advance_cases hm he)
    have hkept := h.keeps (P := fun es f _ => Over f.worker ∧ ∀ e ∈ es, e.byProducer = false)
      ⟨hover, List.forall_mem_nil _⟩ fun hk hs => by
        obtain ⟨hw, he⟩ := hk.1.step hs
        exact ⟨hw, List.forall_mem_append.2 ⟨hk.2, List.forall_mem_singleton.2 he⟩⟩
    exact hkept.2

/-- When a feed is closed whose walk is about to hand an item over that is not admitted, the walk ends with three moves
and no request. -/
theorem settle_of_closed {stage : Stage μ α} {item : Item α} {next : Bool → Stage μ α} (hc : f.closed = true)
    (ha : f.admits = false) (hw : f.worker = .running stage) (hp : walk.producer stage = .offer item next)
    (moves : Nat) :
    f.settle walk.producer (moves + 3) o =
      ({ f with worker := .ended, answers := f.answers ++ [false], begun := { f.begun with offer := false } }, o) := by
  have hrefused := advance_of_closed hc hw hp o
  obtain ⟨worker, slot, closed, answers, begun⟩ := f
  obtain rfl : closed = true := hc
  rw [ha, next_false hp] at hrefused
  rw [settle, hrefused]
  -- the walk finishes, and the end is dropped
  show settle walk.producer moves ⟨.ended, slot, true, answers ++ [false], { begun with offer := false }⟩ o = _
  exact settle_of_ended walk.producer moves rfl o

end

end Walk

namespace Feed

/-- **What closing prevents.** After a feed has been closed, in whatever way, it stays closed, and closing it again does
nothing. Whoever comes to take from it then receives nothing.

* At most as many items are received as takings had begun, and no other items than the one that was in the slot and the
  one of the offer that had begun.
* Of all offers only the first one may be accepted. It had begun then, and found the slot empty at the closing or
  emptied by a taking that had begun. No offer is held up: it is accepted just if it had begun and finds the slot empty.
* The producer of a walk does nothing after the first refusal; when it is about to hand over an item that is not
  admitted, it ends by itself, and without a request. -/
theorem after_closing {σ α : Type} (outside : Observed σ → Observed σ → Prop) :
    (∀ {S : Type} {producer : Producer σ S α} {first : S} {f f₁ f' : Feed S α} {o₀ o o' : Observed σ}
      {es₀ es : List (Event σ S α)}, Runs producer outside (.start first) o₀ es₀ f o → f.Closes f₁ →
      Runs producer outside f₁ o es f' o' →
        f'.closed = true ∧ f'.close = f' ∧
        (∀ moves, (f'.next producer moves o').1 = .stopped ∧ ∀ c, (f'.call producer moves o' c).1 = []) ∧
        (received es).length ≤ f₁.begun.takings ∧
        (∃ late, late <+: inHand producer f₁ ∧ received es ++ inSlot f'.slot = inSlot f₁.slot ++ late) ∧
        (∀ accepted ∈ (answersOf es).tail, accepted = false) ∧
        (true ∈ answersOf es → f₁.begun.offer = true ∧ (f₁.slot = none ∨ 0 < f₁.begun.takings)) ∧
        ∀ stage item next, f'.worker = .running stage → producer stage = .offer item next →
          f'.admits = (f'.begun.offer && f'.slot.isNone) ∧
          ∃ f₂, f'.advance producer o' = some (f₂, o') ∧ f₂.worker = .running (next f'.admits) ∧
            f₂.answers = f'.answers ++ [f'.admits]) ∧
    ∀ {μ : Type} {walk : Walk σ μ α} {f f₁ f' : Feed (Walk.Stage μ α) α} {o o' : Observed σ}
      {es : List (Event σ (Walk.Stage μ α) α)}, f.Closes f₁ → Runs walk.producer outside f₁ o es f' o' →
        (∀ (es₁ es₂ : List (Event σ (Walk.Stage μ α) α)) item, es = es₁ ++ .answered item false :: es₂ →
          ∀ e ∈ es₂, e.byProducer = false) ∧
        ∀ stage item next, f'.worker = .running stage → walk.producer stage = .offer item next → f'.admits = false →
          ∀ moves, f'.settle walk.producer (moves + 3) o' =
            ({ f' with
              worker := .ended
              answers := f'.answers ++ [false]
              begun := { f'.begun with offer := false } }, o') := by
  refine ⟨?_, ?_⟩
  · intro S producer first f f₁ f' o₀ o o' es₀ es h₀ hc h
    have hsince := Since.of_runs (hc.poised (poised_of_runs h₀)) hc.closed h
    have hclosed := hsince.closed
    refine ⟨hclosed, ?_, fun moves => ⟨next_of_closed hclosed o' moves, ?_⟩, ?_, hsince.handed, hsince.later_refused,
      hsince.accepted, ?_⟩
    · obtain ⟨worker, slot, closed, answers, begun⟩ := f'
      obtain rfl : closed = true := hclosed
      rfl
    · exact fun c => call_of_closed hclosed o' c moves
    · exact Nat.le_trans (Nat.le_add_right ..) hsince.received_le
    · exact fun stage item next hw hp =>
        ⟨admits_of_closed hclosed, _, advance_of_closed hclosed hw hp o', rfl, rfl⟩
  · intro μ walk f f₁ f' o o' es hc h
    have hclosed := closed_of_runs hc.closed h
    refine ⟨?_, fun stage item next hw hp ha => Walk.settle_of_closed hclosed ha hw hp⟩
    rintro es₁ es₂ item rfl
    exact Walk.byProducer_eq_false_of_refused h

/-- A feed is closed while its walk is held up with the second of three items: nobody receives the first one, and the
walk ends. -/
theorem after_closing_of_held_up :
    let walk : Walk Unit Unit Nat := .whole fun o => (.ok [some 1, some 2, some 3], o)
    let page : Page Unit (Option Nat) := ⟨[some 1, some 2, some 3], false, ()⟩
    let f : Feed (Walk.Stage Unit Nat) Nat := ⟨.running (.emitting [some 2, some 3] page), some (.item (.value 1)),
      false, [true], ⟨true, 0⟩⟩
    (f.close.next walk.producer 0 ⟨(), [], {}⟩).1 = .stopped ∧
      (∀ es f' o', Runs walk.producer undisturbed f.close ⟨(), [], {}⟩ es f' o' → received es = []) ∧
      f.close.settle walk.producer 3 ⟨(), [], {}⟩ =
        (⟨.ended, some (.item (.value 1)), true, [true, false], ⟨false, 0⟩⟩, ⟨(), [], {}⟩) := by
  intro walk page f
  have hreached : Runs walk.producer undisturbed (.start (.fetching ())) ⟨(), [], {}⟩ _ f ⟨(), [], {}⟩ :=
    .cons (.move rfl rfl) <| .cons (.move rfl rfl) <| .cons (.look (.offer rfl rfl)) .nil
  have hrun : Runs walk.producer undisturbed f.close ⟨(), [], {}⟩ [] f.close ⟨(), [], {}⟩ := .nil
  have hfinal := after_closing (undisturbed (σ := Unit)) (α := Nat)
  refine ⟨?_, fun es f' o' h => ?_, (hfinal.2 .close hrun).2 _ _ _ rfl rfl rfl 0⟩
  · obtain ⟨-, -, hnothing, -⟩ := hfinal.1 hreached .close hrun
    exact (hnothing 0).1
  · obtain ⟨-, -, -, hreceived, -⟩ := hfinal.1 hreached .close h
    exact List.length_eq_zero_iff.1 (Nat.le_zero.1 hreceived)

/-- **What closing does not prevent.** A page has been fetched that leads on to another one, and its first entry is in
the slot. When the producer has begun to offer the second entry, the first one is taken and the feed is closed, the
offer is accepted all the same, the next page is fetched, and only then an offer is refused. And when a consumer has
begun to take, it receives the first entry from the closed feed. -/
theorem goes_on_after_closing :
    let more : Page String (Option String) := ⟨[some "a", some "b"], true, ""⟩
    let last : Page String (Option String) := ⟨[some "c"], false, ""⟩
    let walk : Walk Unit String String :=
      .pages true .ok fun marker _ o => (.ok (if marker = "" then more else last), o)
    let o : Observed Unit := ⟨(), [], {}⟩
    (∃ es f f', Runs walk.producer undisturbed walk.feed o es f o ∧
      Runs walk.producer undisturbed f.close o
        [.answered (.value "b") true, .worked o (.emitting [] more) (.fetching "b"),
          .worked o (.fetching "b") (.emitting [some "c"] last), .answered (.value "c") false] f' o) ∧
    ∃ es f f', Runs walk.producer undisturbed walk.feed o es f o ∧
      Runs walk.producer undisturbed f.close o [.took (.item (.value "a"))] f' o := by
  intro more last walk o
  have hoffering : Runs walk.producer undisturbed walk.feed o _
      ⟨.running (.emitting [some "b"] more), none, false, [true], ⟨true, 0⟩⟩ o :=
    .cons (.move rfl rfl) <| .cons (.move rfl rfl) <| .cons (.look (.offer rfl rfl)) <| .cons (.take rfl) .nil
  have htaking : Runs walk.producer undisturbed walk.feed o _
      ⟨.running (.emitting [some "b"] more), some (.item (.value "a")), false, [true], ⟨false, 1⟩⟩ o :=
    .cons (.move rfl rfl) <| .cons (.look (.taking rfl)) <| .cons (.move rfl rfl) .nil
  exact ⟨⟨_, _, _, hoffering, .cons (.move rfl rfl) <| .cons (.move rfl rfl) <| .cons (.move rfl rfl) <|
    .cons (.move rfl rfl) .nil⟩, _, _, _, htaking, .cons (.get rfl) .nil⟩

end Feed

end BucketClient
