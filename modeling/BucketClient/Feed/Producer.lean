import BucketClient.Feed.Item
import BucketClient.Observed

/-!
# Producers

A producer brings forth the items of a feed one after the other. It is given by the stages it passes through: for each
stage, what it does next (`Move`). Its moves act on the transport, the journal and the counters only through
`Move.work`; handing an item over takes the producer to a next stage that may depend on whether the item was accepted.
-/

namespace BucketClient

/-- What a producer does next. -/
inductive Move (σ S α : Type) where
  /-- Hands an item over, and goes on with the stage for the answer: whether the item was accepted. -/
  | offer (item : Item α) (next : Bool → S)
  /-- Works by itself, which may take a request, and goes on. -/
  | work (run : Observed σ → S × Observed σ)
  /-- Waits for something from outside. -/
  | wait
  /-- Has brought forth everything. -/
  | finish
  /-- Fails. -/
  | fail (error : Failure)

/-- A producer: its next move at each stage. -/
abbrev Producer (σ S α : Type) : Type :=
  S → Move σ S α

end BucketClient
