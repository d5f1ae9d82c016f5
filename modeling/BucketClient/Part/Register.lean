import BucketClient.Failure

/-!
# Completed parts

The parts of a session that have been stored, in ascending order whatever the order of their arrival. A number is
accepted once.
-/

namespace BucketClient

/-- A stored part: its number and the entity tag that the service gave it. -/
structure CompletedPart where
  number : Int
  tag : String
  deriving DecidableEq, Repr

/-- The stored parts of a session, ascending by number. -/
structure Register where
  parts : List CompletedPart := []
  ascending : parts.Pairwise (fun p q => p.number < q.number) := by simp

namespace Register

/-- The register without parts. -/
def empty : Register := {}

/-- A part put into an ascending list, before the first part of a higher number. -/
def place (part : CompletedPart) : List CompletedPart → List CompletedPart
  | [] => [part]
  | p :: rest => if part.number < p.number then part :: p :: rest else p :: place part rest

theorem mem_place {part q : CompletedPart} {parts : List CompletedPart} :
    q ∈ place part parts ↔ q = part ∨ q ∈ parts := by
  induction parts with
  | nil => simp [place]
  | cons p rest ih =>
    by_cases h : part.number < p.number
    · simp [place, h]
    · simp only [place, h, if_false, List.mem_cons, ih]
      exact or_left_comm

/-- Putting a part of a new number into an ascending list keeps it ascending. -/
theorem pairwise_place {part : CompletedPart} {parts : List CompletedPart}
    (h : parts.Pairwise (fun p q => p.number < q.number)) (hn : ∀ p ∈ parts, p.number ≠ part.number) :
    (place part parts).Pairwise (fun p q => p.number < q.number) := by
  induction parts with
  | nil => simp [place]
  | cons p rest ih =>
    have hp := (List.pairwise_cons.1 h).1
    by_cases hlt : part.number < p.number
    · simp only [place, hlt, if_true]
      refine List.pairwise_cons.2 ⟨fun q hq => ?_, h⟩
      rcases List.mem_cons.1 hq with rfl | hq
      · exact hlt
      · exact Int.lt_trans hlt (hp q hq)
    · simp only [place, hlt, if_false]
      refine List.pairwise_cons.2
        ⟨fun q hq => ?_, ih (List.pairwise_cons.1 h).2 fun q hq => hn q (List.mem_cons_of_mem _ hq)⟩
      rcases mem_place.1 hq with rfl | hq
      · have := hn p List.mem_cons_self
        omega
      · exact hp q hq

/-- Whether a part of this number is stored. -/
def contains (r : Register) (number : Int) : Bool :=
  r.parts.any (·.number == number)

theorem contains_eq_false_iff {r : Register} {number : Int} :
    r.contains number = false ↔ ∀ p ∈ r.parts, p.number ≠ number := by
  simp [contains]

/-- The register with a further part; a number that is stored is refused. -/
def add (r : Register) (part : CompletedPart) : Except Failure Register :=
  if h : r.contains part.number = true then .error (.value (.partRegistered part.number))
  else .ok ⟨place part r.parts, pairwise_place r.ascending (contains_eq_false_iff.1 (by simpa using h))⟩

/-- The number of stored parts. -/
def size (r : Register) : Nat :=
  r.parts.length

end Register

end BucketClient
