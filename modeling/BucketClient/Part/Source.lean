import BucketClient.Failure

/-!
# Upload sources

Where the bytes of an upload come from. A source answers each read with a block of bytes or with a failure, and what
it answers may depend on the number of bytes asked for; an empty block means that the data has ended. A source is
given as the conversation that it would hold: its reply to a read of each size, and the source that is left after it.
Every source gives out after finitely many reads and is empty from then on.

Two common sources are built here: one that replays a list of replies whatever is asked (`Source.replaying`), and one
that reads from a byte string, at most so many bytes at a time, with or without a position at which it fails
(`Source.ofBytes`).
-/

namespace BucketClient

/-- The reply to one read. -/
inductive Reply where
  | block (data : ByteArray)
  | failed (error : Failure)

/-- A source of bytes, by its replies to reads of each size. -/
inductive Source where
  /-- Every further read is answered by an empty block. -/
  | exhausted
  /-- The reply to a read of each size, and what is left after it. -/
  | reading (reply : Nat → Reply) (rest : Nat → Source)

namespace Source

/-- The source that gives these replies, one a read. -/
def replaying : List Reply → Source
  | [] => .exhausted
  | reply :: rest => .reading (fun _ => reply) (fun _ => replaying rest)

/-- How a source reads from a byte string: the most bytes a read gives, and the position from which reads fail. -/
structure Manner where
  step : Option Nat := none
  failing : Option (Nat × Failure) := none

/-- How many bytes a read of `asked` bytes gives at a position of a string of `size` bytes. -/
def Manner.grant (manner : Manner) (size position asked : Nat) : Nat :=
  let stepped := manner.step.elim asked (min asked)
  let allowed := manner.failing.elim stepped fun f => min stepped (f.1 - position)
  min allowed (size - position)

/-- The failure of a read at a position. -/
def Manner.failure? (manner : Manner) (position : Nat) : Option Failure :=
  manner.failing.bind fun f => if f.1 ≤ position then some f.2 else none

theorem Manner.grant_le (manner : Manner) (size position asked : Nat) :
    manner.grant size position asked ≤ size - position :=
  Nat.min_le_right _ _

/-- The source that reads from a byte string, from a position on. -/
def fromPosition (manner : Manner) (data : ByteArray) (position : Nat) : Source :=
  match manner.failure? position with
  | some error => .reading (fun _ => .failed error) (fun _ => .exhausted)
  | none =>
    .reading
      (fun asked => .block (data.extract position (position + manner.grant data.size position asked)))
      (fun asked =>
        if _h : 0 < manner.grant data.size position asked then
          fromPosition manner data (position + manner.grant data.size position asked)
        else .exhausted)
termination_by data.size - position
decreasing_by
  have := manner.grant_le data.size position asked
  omega

/-- The source that reads from a byte string. -/
def ofBytes (data : ByteArray) (manner : Manner := {}) : Source :=
  fromPosition manner data 0

end Source

end BucketClient
