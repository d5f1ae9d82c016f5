import BucketClient.Feed.Producer

/-!
# Feeds

A feed hands the items of a producer to a consumer. Producer and consumer meet at a slot for one item: the producer
fills the slot when it is empty and is held up while it is full, so it runs ahead of the consumer by one item at most.
When the producer has finished, the end of the feed is handed over like an item. A producer that fails has its failure
logged and handed over as the last item, unless the failure is an interrupt, which just ends it.

A closed feed gives nothing more to those who come, whatever is in the slot, and accepts nothing more from them. But
whether a feed is closed is looked at first, and the slot is gone to then: an offer and a taking that have found the
feed open (`Begun`) still come to the slot when it has been closed meanwhile. An item that has begun to be offered then
gets in if the slot is empty (`Feed.admits`), and a taking that has begun gets what is in the slot (`Feed.get`).

`advance` is one move of the producer, `take` one of the consumer; each looks and goes to the slot at once, unless it
has looked before. The two may alternate in any order; `settle` lets the producer move until it can do nothing by
itself.
-/

namespace BucketClient

/-- What stands in the slot: an item, or the end of the feed. -/
inductive Signal (α : Type) where
  | item (item : Item α)
  | finish

/-- Where the producing side of a feed stands. -/
inductive Worker (S : Type) where
  /-- The producer is at this stage. -/
  | running (stage : S)
  /-- The producer has failed, and its failure is to be handed over. -/
  | reporting (error : Failure)
  /-- The end of the feed is to be handed over. -/
  | finishing
  /-- All is handed over. -/
  | ended

/-- What has found a feed open and has not come to its slot yet. -/
structure Begun where
  /-- The offer that the producing side is making. -/
  offer : Bool := false
  /-- How many takings, of as many consumers. -/
  takings : Nat := 0
  deriving DecidableEq, Repr

/-- A feed: its producing side, the slot, whether it is closed, what the offers of the producer were answered, and what
has begun. A feed counts as closed from the moment on at which this can be seen by those who look. -/
structure Feed (S α : Type) where
  worker : Worker S
  slot : Option (Signal α) := none
  closed : Bool := false
  answers : List Bool := []
  begun : Begun := {}

/-- What a consumer gets from a feed. -/
inductive Taken (α : Type) where
  | item (item : Item α)
  | stopped
  /-- Nothing yet: the slot is empty and the feed goes on. -/
  | waiting

namespace Feed

variable {σ S α : Type}

/-- The name under which listings log. -/
def logger : String := "objstore.listing"

/-- The log record of a failed producer. -/
def failureRecord (error : Failure) : Log.Record where
  logger := logger
  level := Log.Level.error.number
  template := "stream_producer_failed error=%s"
  args := [.text error.message]
  failure := some error

/-- A feed whose producer is about to start. -/
def start (stage : S) : Feed S α where
  worker := .running stage

/-- Whether the producing side still runs. -/
def alive (f : Feed S α) : Bool :=
  match f.worker with
  | .ended => false
  | _ => true

/-- Whether a signal that is handed over now is for the slot: the feed is open, or it was found open when the offer
began and there is room in the slot, so that it is not looked at again. -/
def admits (f : Feed S α) : Bool :=
  !f.closed || (f.begun.offer && f.slot.isNone)

/-- Hands a signal over and goes on with a worker. A full slot holds the signal up, and a feed that does not admit it
lets it pass. -/
def put (signal : Signal α) (next : Worker S) (f : Feed S α) : Option (Feed S α) :=
  let passed := { f with worker := next, begun := { f.begun with offer := false } }
  if f.admits then match f.slot with
    | none => some { passed with slot := some signal }
    | some _ => none
  else some passed

/-- One move of the producing side; none when it is held up, waits or has ended. -/
def advance (producer : Producer σ S α) (f : Feed S α) (o : Observed σ) : Option (Feed S α × Observed σ) :=
  match f.worker with
  | .running stage => match producer stage with
    | .offer item next =>
      let accepted := f.admits
      (f.put (.item item) (.running (next accepted))).map fun f => ({ f with answers := f.answers ++ [accepted] }, o)
    | .work run =>
      let (stage, o) := run o
      some ({ f with worker := .running stage }, o)
    | .wait => none
    | .finish => some ({ f with worker := .finishing }, o)
    | .fail error =>
      if error.isInterrupt then some ({ f with worker := .finishing }, o)
      else some ({ f with worker := .reporting error }, o.log (failureRecord error))
  | .reporting error => (f.put (.item (.failure error)) .finishing).map fun f => (f, o)
  | .finishing => (f.put .finish .ended).map fun f => (f, o)
  | .ended => none

/-- Lets the producer move until it can do nothing by itself, for so many moves at most. -/
def settle (producer : Producer σ S α) : Nat → Feed S α → Observed σ → Feed S α × Observed σ
  | 0, f, o => (f, o)
  | moves + 1, f, o => match f.advance producer o with
    | some (f, o) => settle producer moves f o
    | none => (f, o)

/-- Closes a feed. A consumer may see the closing somewhat before the producing side does; it is stopped then, just as
it would be right afterwards. -/
def close (f : Feed S α) : Feed S α :=
  { f with closed := true }

/-- Gets what is in the slot; the end of the feed closes it. At an empty slot it is looked at again whether the feed is
closed. -/
def get (f : Feed S α) : Taken α × Feed S α :=
  match f.slot with
  | some (.item item) => (.item item, { f with slot := none })
  | some .finish => (.stopped, { f with slot := none, closed := true })
  | none => (if f.closed then .stopped else .waiting, f)

/-- Takes what is in the slot of an open feed. -/
def take (f : Feed S α) : Taken α × Feed S α :=
  if f.closed then (.stopped, f) else f.get

/-! ## What has begun -/

/-- Whether the producing side is about to hand something over. -/
def offers (producer : Producer σ S α) (f : Feed S α) : Bool :=
  match f.worker with
  | .running stage => match producer stage with
    | .offer _ _ => true
    | _ => false
  | .reporting _ | .finishing => true
  | .ended => false

/-- The producing side begins to hand something over to an open feed. -/
def beginOffer (f : Feed S α) : Feed S α :=
  { f with begun := { f.begun with offer := true } }

/-- The producing side gives a full slot up, to look again. -/
def lapse (f : Feed S α) : Feed S α :=
  { f with begun := { f.begun with offer := false } }

/-- A consumer begins to take from an open feed. -/
def beginTaking (f : Feed S α) : Feed S α :=
  { f with begun := { f.begun with takings := f.begun.takings + 1 } }

/-- A taking that has begun comes to the slot. -/
def get? (f : Feed S α) : Option (Taken α × Feed S α) :=
  match f.begun.takings with
  | 0 => none
  | takings + 1 => some ({ f with begun := { f.begun with takings } }).get

/-! ## Consumers -/

section

variable (producer : Producer σ S α) (moves : Nat)

/-- Takes once and lets the producer settle. -/
def next (f : Feed S α) (o : Observed σ) : Taken α × Feed S α × Observed σ :=
  let (taken, f) := f.take
  (taken, f.settle producer moves o)

/-- Takes a number of times, also after the end. -/
def nexts : Nat → Feed S α → Observed σ → List (Taken α) × Feed S α × Observed σ
  | 0, f, o => ([], f, o)
  | n + 1, f, o =>
    let (taken, f, o) := f.next producer moves o
    let (rest, f, o) := nexts n f o
    (taken :: rest, f, o)

/-- Takes the items up to the end, but so many at most. -/
def items : Nat → Feed S α → Observed σ → List (Item α) × Feed S α × Observed σ
  | 0, f, o => ([], f, o)
  | n + 1, f, o => match f.next producer moves o with
    | (.item item, f, o) =>
      let (rest, f, o) := items n f o
      (item :: rest, f, o)
    | (_, f, o) => ([], f, o)

/-- Takes the values up to the end, but so many at most; an item that is a failure ends them with it. -/
def values : Nat → Feed S α → Observed σ → List α × Option Failure × Feed S α × Observed σ
  | 0, f, o => ([], none, f, o)
  | n + 1, f, o => match f.next producer moves o with
    | (.item (.value value), f, o) =>
      let (rest, error, f, o) := values n f o
      (value :: rest, error, f, o)
    | (.item (.failure error), f, o) => ([], some error, f, o)
    | (_, f, o) => ([], none, f, o)

/-- Closes and lets the producer settle. -/
def shut (f : Feed S α) (o : Observed σ) : Feed S α × Observed σ :=
  f.close.settle producer moves o

end

end Feed

end BucketClient
