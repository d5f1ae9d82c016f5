import BucketClient.Failure

/-!
# Items of a feed

One item that a feed hands over: either a value or the failure that ended the feed.
-/

namespace BucketClient

/-- An item of a feed. -/
inductive Item (α : Type) where
  | value (value : α)
  | failure (error : Failure)
  deriving Repr

namespace Item

variable {α : Type}

/-- The item made of a value or a failure; it takes exactly one of the two. -/
def make (value : Option α) (error : Option Failure) : Except Failure (Item α) :=
  match value, error with
  | some value, none => .ok (.value value)
  | none, some error => .ok (.failure error)
  | _, _ => .error (.value .emptyItem)

end Item

end BucketClient
