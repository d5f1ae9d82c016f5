import BucketClient.Feed.Script
import BucketClient.Proofs.Feed.Run

/-!
# What a feed delivers

In every run of a feed the consumer receives, in their order, the first of the items that the producer brings forth:
those that it has offered, and behind them one for its failure. It has received all of them when it comes to the end of
a feed that it did not close, and the producer is never ahead of it by more than one accepted item
(`received_isPrefix`).

The invariant is a balance (`Ledger`): while the feed is open, and also while an offer is made that has found it open,
what has been brought forth is what has been received, with what is in the slot and what is still to be reported.
-/

namespace BucketClient.Feed

variable {σ S α : Type}

/-- The item that is in the slot. -/
def inSlot : Option (Signal α) → List (Item α)
  | some (.item item) => [item]
  | _ => []

@[simp] theorem inSlot_none : inSlot (none : Option (Signal α)) = [] := rfl

@[simp] theorem inSlot_item (item : Item α) : inSlot (some (.item item)) = [item] := rfl

@[simp] theorem inSlot_finish : inSlot (some (.finish : Signal α)) = [] := rfl

/-- The item for a failure that is still to be handed over. -/
def unreported : Worker S → List (Item α)
  | .reporting error => [.failure error]
  | _ => []

@[simp] theorem unreported_running (stage : S) : (unreported (.running stage) : List (Item α)) = [] := rfl

@[simp] theorem unreported_reporting (error : Failure) :
    (unreported (.reporting error : Worker S) : List (Item α)) = [.failure error] := rfl

@[simp] theorem unreported_finishing : (unreported (.finishing : Worker S) : List (Item α)) = [] := rfl

@[simp] theorem unreported_ended : (unreported (.ended : Worker S) : List (Item α)) = [] := rfl

theorem length_inSlot_le (slot : Option (Signal α)) : (inSlot slot).length ≤ 1 := by
  cases slot with
  | none => simp
  | some signal => cases signal <;> simp

/-- How a feed stands to the events of a run that has led to it. -/
structure Ledger (es : List (Event σ S α)) (f : Feed S α) : Prop where
  answers_eq : f.answers = answersOf es
  ahead : f.answers.count true ≤ (received es).length + (inSlot f.slot).length
  /-- A producer that goes on has not failed. -/
  unfailed : ∀ stage, f.worker = .running stage → raised es = []
  balance : f.closed = false ∨ f.begun.offer = true →
    received es ++ inSlot f.slot ++ unreported f.worker = emitted es ++ raised es
  isPrefix : received es ++ inSlot f.slot <+: emitted es ++ raised es
  /-- The end is handed over last. -/
  ended_of_finish : f.slot = some .finish → f.worker = .ended
  complete : Event.closed ∉ es → f.closed = true →
    f.worker = .ended ∧ f.slot = none ∧ received es = emitted es ++ raised es
  closed_of_stopped : Event.took .stopped ∈ es → f.closed = true

namespace Ledger

variable {producer : Producer σ S α} {outside : Observed σ → Observed σ → Prop} {f f' : Feed S α}
  {o o' : Observed σ} {es : List (Event σ S α)} {e : Event σ S α}

theorem start (stage : S) : Ledger ([] : List (Event σ S α)) (.start stage) := by
  constructor <;> simp [Feed.start, inSlot, unreported]

/-- A move of the producing side. -/
theorem of_moves (h : Ledger es f) (hm : Moves producer f o e f' o') : Ledger (es ++ [e]) f' := by
  obtain ⟨hanswers, hahead, hunfailed, hbalance, hprefix, hended, hcomplete, hstopped⟩ := h
  cases hm with
  | accept => constructor <;> simp_all
  | @refuse stage item =>
    -- what is refused has been brought forth all the same
    have hr := hunfailed stage rfl
    constructor <;> simp_all
    exact hprefix.trans (List.prefix_append ..)
  | @fail stage error =>
    have hr := hunfailed stage rfl
    constructor <;> simp_all
    exact hprefix.trans (List.prefix_append ..)
  | report =>
    constructor <;> simp_all
    omega
  | work | finish | interrupt | drop | conclude | vanish =>
    -- nothing is brought forth, and the slot holds no other item than before
    constructor <;> simp_all

/-- A taking of a consumer. -/
theorem of_takes (h : Ledger es f) {taken : Taken α} (ht : Takes f taken f') :
    Ledger (es ++ [.took taken]) f' := by
  obtain ⟨hanswers, hahead, hunfailed, hbalance, hprefix, hended, hcomplete, hstopped⟩ := h
  cases ht with
  | item hcomes | finish hcomes | waiting hcomes | again hcomes =>
    -- the offer that is made, if one is, has found the feed open before as after
    have hoffer := hcomes.offer_eq
    constructor <;> simp_all
  | closed => constructor <;> simp_all

theorem of_looks (h : Ledger es f) (hl : Looks producer f f') : Ledger (es ++ [.looked]) f' := by
  obtain ⟨hanswers, hahead, hunfailed, hbalance, hprefix, hended, hcomplete, hstopped⟩ := h
  cases hl with
  | offer => constructor <;> simp_all [beginOffer]
  | lapse => constructor <;> simp_all [lapse]
  | taking => constructor <;> simp_all [beginTaking]

theorem step (h : Ledger es f) (hs : Step producer outside f o e f' o') : Ledger (es ++ [e]) f' := by
  cases hs with
  | move hm he => exact h.of_moves (advance_cases hm he)
  | take ht => exact h.of_takes (take_cases ht)
  | get ht => exact h.of_takes (get_cases ht)
  | look hl => exact h.of_looks hl
  | close =>
    obtain ⟨hanswers, hahead, hunfailed, hbalance, hprefix, hended, hcomplete, hstopped⟩ := h
    constructor <;> simp_all [close]
  | disturb =>
    obtain ⟨hanswers, hahead, hunfailed, hbalance, hprefix, hended, hcomplete, hstopped⟩ := h
    constructor <;> simp_all

theorem of_runs {stage : S} (h : Runs producer outside (.start stage) o es f o') : Ledger es f :=
  h.keeps (P := fun es f _ => Ledger es f) (start stage) fun hl hs => hl.step hs

/-- What has been received are the first of the items that have been brought forth. -/
theorem received_prefix (h : Ledger es f) : received es <+: emitted es ++ raised es :=
  (List.prefix_append ..).trans h.isPrefix

end Ledger

theorem alive_eq_false {f : Feed S α} (h : f.worker = .ended) : f.alive = false := by
  unfold alive
  rw [h]

/-- **No loss, no duplication, bounded run-ahead.** After every run the consumer has received the first of the items
that the producer has offered, followed by one for its failure. The accepted offers are at most one more than the items
received. A feed that has come to its end without being closed has handed over everything. And a run can go on with any
calls of the consumer, in which it receives what the calls give. -/
theorem received_isPrefix {producer : Producer σ S α} {outside : Observed σ → Observed σ → Prop} {stage : S}
    {f : Feed S α} {o o' : Observed σ} {es : List (Event σ S α)}
    (h : Runs producer outside (.start stage) o es f o') :
    received es <+: emitted es ++ raised es ∧
    f.answers = answersOf es ∧ f.answers.count true ≤ (received es).length + 1 ∧
    (Event.took .stopped ∈ es → f.closed = true) ∧
    (f.closed = true → Event.closed ∉ es → f.alive = false ∧ received es = emitted es ++ raised es) ∧
    ∀ cs : List (Call × Nat), Receives producer outside f o' (f.calls producer o' cs).1
      (f.calls producer o' cs).2.1 (f.calls producer o' cs).2.2 := by
  have hl := Ledger.of_runs h
  refine ⟨hl.received_prefix, hl.answers_eq, ?_, hl.closed_of_stopped, ?_, fun cs => receives_calls cs f o'⟩
  · have hslot := length_inSlot_le f.slot
    have hahead := hl.ahead
    omega
  · intro hc hopen
    obtain ⟨hw, -, heq⟩ := hl.complete hopen hc
    exact ⟨alive_eq_false hw, heq⟩

/-- A producer hands over one value and fails: the value and the failure are received, then comes the end. -/
theorem received_isPrefix_of_failing_script :
    let es : List (Event Unit Script Value) := [.answered (.value (.int 1)) true, .took (.item (.value (.int 1))),
      .failed (.raised .system none), .passed, .took (.item (.failure (.raised .system none))), .passed, .took .stopped]
    ∃ f o', Runs Script.producer undisturbed (.start ⟨[.emit (some (.int 1)), .raise (.raised .system none)], true⟩)
        ⟨(), [], {}⟩ es f o' ∧ f.answers.count true ≤ 3 ∧ f.alive = false ∧ received es = emitted es ++ raised es := by
  intro es
  have h : Runs Script.producer undisturbed (.start ⟨[.emit (some (.int 1)), .raise (.raised .system none)], true⟩)
      ⟨(), [], {}⟩ es _ _ :=
    .cons (.move rfl rfl) <| .cons (.take rfl) <| .cons (.move rfl rfl) <| .cons (.move rfl rfl) <| .cons (.take rfl) <|
      .cons (.move rfl rfl) <| .cons (.take rfl) .nil
  obtain ⟨-, -, hahead, hclosed, hend, -⟩ := received_isPrefix h
  exact ⟨_, _, h, hahead, hend (hclosed (by simp [es])) (by simp [es])⟩

end BucketClient.Feed
