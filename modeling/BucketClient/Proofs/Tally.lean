import BucketClient.Observed

/-!
# Counters that go up

How far the counters go up between two states, as a gain for each of them (`Observed.Tallies`). The gains of what is
done one after the other add up.
-/

namespace BucketClient

variable {σ : Type}

/-- How far each counter goes up when this one goes up by an amount. -/
def Counter.raise (counter : Counter) (amount : Nat) (other : Counter) : Nat :=
  if other = counter then amount else 0

@[simp] theorem Counter.raise_zero (counter other : Counter) : counter.raise 0 other = 0 := by
  rw [raise, ite_self]

theorem Counter.raise_add (counter : Counter) (first second : Nat) (other : Counter) :
    counter.raise (first + second) other = counter.raise first other + counter.raise second other := by
  unfold raise
  split <;> rfl

/-- From the first state to the second each counter has gone up by so much, or by nothing if counting is disabled. -/
def Observed.Tallies (enabled : Bool) (o o' : Observed σ) (gain : Counter → Nat) : Prop :=
  ∀ counter, o'.metrics.count counter = o.metrics.count counter + if enabled then gain counter else 0

namespace Observed

variable {enabled : Bool} {o o₁ o' : Observed σ} {gain gain' : Counter → Nat}

theorem tallies_zero (h : o'.metrics = o.metrics) : Tallies enabled o o' fun _ => 0 := by
  intro counter
  rw [h]
  cases enabled <;> rfl

theorem Tallies.trans (h : Tallies enabled o o₁ gain) (h' : Tallies enabled o₁ o' gain') :
    Tallies enabled o o' fun counter => gain counter + gain' counter := by
  intro counter
  rw [h' counter, h counter]
  cases enabled
  · rfl
  · exact Nat.add_assoc _ _ _

theorem Tallies.congr (h : Tallies enabled o o' gain) (heq : ∀ counter, gain counter = gain' counter) :
    Tallies enabled o o' gain' := by
  intro counter
  rw [h counter, heq counter]

/-- What does not touch the counters may come before and after. -/
theorem Tallies.congr_metrics {o₂ : Observed σ} (h : Tallies enabled o₁ o₂ gain) (hbefore : o₁.metrics = o.metrics)
    (hafter : o'.metrics = o₂.metrics) : Tallies enabled o o' gain := by
  intro counter
  rw [hafter, h counter, hbefore]

theorem tallies_count (enabled : Bool) (counter : Counter) (amount : Nat) (o : Observed σ) :
    Tallies enabled o (o.count enabled counter amount) (counter.raise amount) := by
  intro other
  cases enabled with
  | false => rfl
  | true =>
    show (o.metrics.add counter amount).count other = _
    rw [Metrics.count_add, if_pos rfl, Counter.raise]
    by_cases h : other = counter
    · rw [if_pos h, if_pos h, h]
    · rw [if_neg h, if_neg h]
      rfl

theorem metrics_perform {t : Transport σ} {request : Request} {outcome : request.Outcome}
    (h : o.perform t request = (outcome, o')) : o'.metrics = o.metrics := by
  cases h
  rfl

end Observed

end BucketClient
