import BucketClient.Feed.Basic

/-!
# Scripted producers

A producer that follows a list of instructions. It stops when an item is refused, unless it is told to go on; counting
stops it in any case.
-/

namespace BucketClient

/-- An instruction to a scripted producer. -/
inductive Instruction where
  /-- Hands a value over; without a value the item cannot be made. -/
  | emit (value : Option Value)
  | emitFailure (error : Failure)
  | raise (error : Failure)
  /-- Hands over this number, the next one, and so on, until one is refused. -/
  | countFrom (n : Int)
  /-- Waits until it is released. -/
  | hold

/-- The instructions that are left, and whether a refused item ends them. -/
structure Script where
  left : List Instruction
  stopOnRefusal : Bool := true

namespace Script

variable {σ : Type}

/-- The script after an answer to an offer, when `rest` is left. -/
def afterAnswer (script : Script) (rest : List Instruction) (accepted : Bool) : Script :=
  { script with left := if accepted || !script.stopOnRefusal then rest else [] }

/-- The producer that follows a script. -/
def producer : Producer σ Script Value := fun script =>
  match script.left with
  | [] => .finish
  | .emit none :: _ => .fail (.value .emptyItem)
  | .emit (some value) :: rest => .offer (.value value) (script.afterAnswer rest)
  | .emitFailure error :: rest => .offer (.failure error) (script.afterAnswer rest)
  | .raise error :: _ => .fail error
  | .countFrom n :: rest =>
    .offer (.value (.int n)) fun accepted =>
      { script with left := if accepted then .countFrom (n + 1) :: rest else [] }
  | .hold :: _ => .wait

/-- The script with all its holds released. -/
def release (script : Script) : Script :=
  { script with left := script.left.filter fun
      | .hold => false
      | _ => true }

end Script

/-- The number of offers that a producer has begun: those answered, and one that is held up. -/
def Feed.offered {σ S α : Type} (producer : Producer σ S α) (f : Feed S α) : Nat :=
  f.answers.length + match f.worker with
    | .running stage => match producer stage with
      | .offer _ _ => 1
      | _ => 0
    | _ => 0

/-- The feed with its producer moved to another stage. -/
def Feed.mapStage {S α : Type} (change : S → S) (f : Feed S α) : Feed S α :=
  match f.worker with
  | .running stage => { f with worker := .running (change stage) }
  | _ => f

end BucketClient
