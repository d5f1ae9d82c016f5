import BucketClient.Log.Record
import BucketClient.Metrics
import BucketClient.Request

/-!
# What operations act on

The state that the operations of the client pass along: the state of the transport, the journal of log records and
the counters. The three are kept together since an operation may touch all of them, and a listing goes on touching
them after the operation that opened it has returned.
-/

namespace BucketClient

/-- The state of a transport with the journal and the counters kept while it is used. -/
structure Observed (σ : Type) where
  transport : σ
  journal : List Log.Record := []
  metrics : Metrics := {}

namespace Observed

variable {σ : Type}

/-- Performs a request. -/
def perform (t : Transport σ) (request : Request) (o : Observed σ) : request.Outcome × Observed σ :=
  let (outcome, transport) := t.perform request o.transport
  (outcome, { o with transport })

/-- Writes a record into the journal. -/
def log (record : Log.Record) (o : Observed σ) : Observed σ :=
  { o with journal := o.journal ++ [record] }

/-- Raises a counter, if counting is enabled. -/
def count (enabled : Bool) (counter : Counter) (amount : Nat) (o : Observed σ) : Observed σ :=
  if enabled then { o with metrics := o.metrics.add counter amount } else o

end Observed

end BucketClient
