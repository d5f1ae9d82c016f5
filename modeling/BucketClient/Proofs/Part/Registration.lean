import BucketClient.Part.Register

/-!
# Histories of a register

What a register holds and replies after any operations on it, additions of any numbers in any order among them.

* `Register.perform`: an operation with the reply to it. `Register.transcript` lists operations with their replies, and
  `Register.accepted` reads off it the parts that were accepted.
* `perm_after`: a register holds the parts that it held before and those that were accepted since, each once. A step
  adds the part that it accepts and nothing else (`perm_perform`).
* `replies_after`: so an addition is refused exactly if a part of its number was accepted before, and the parts are
  handed back in ascending order, whatever the order of their arrival.
-/

namespace BucketClient.Register

/-! ## Placing a part -/

theorem perm_place (part : CompletedPart) (parts : List CompletedPart) : (place part parts).Perm (part :: parts) := by
  induction parts with
  | nil => exact .refl _
  | cons p rest ih =>
    unfold place
    split
    · exact .refl _
    · exact (ih.cons p).trans (.swap part p rest)

/-- A number that is stored is refused. -/
theorem add_of_mem {r : Register} {part p : CompletedPart} (hp : p ∈ r.parts) (hn : p.number = part.number) :
    r.add part = .error (.value (.partRegistered part.number)) := by
  have h : r.contains part.number = true := by
    rw [← Bool.not_eq_false, contains_eq_false_iff]
    exact fun h => h p hp hn
  rw [add, dif_pos h]

/-- A new number is accepted, and nothing else changes. -/
theorem add_of_forall_ne {r : Register} {part : CompletedPart} (h : ∀ p ∈ r.parts, p.number ≠ part.number) :
    ∃ r', r.add part = .ok r' ∧ r'.parts.Perm (part :: r.parts) := by
  have hc : ¬r.contains part.number = true := by
    rw [Bool.not_eq_true, contains_eq_false_iff]
    exact h
  rw [add, dif_neg hc]
  exact ⟨_, rfl, perm_place part r.parts⟩

/-- Registers that hold the same parts hold them in the same order. -/
theorem parts_eq_of_perm {r r' : Register} (h : r.parts.Perm r'.parts) : r.parts = r'.parts :=
  h.eq_of_pairwise (fun _ _ _ _ hlt hgt => absurd hlt (Int.not_lt.2 (Int.le_of_lt hgt))) r.ascending r'.ascending

/-! ## Operations and replies -/

/-- An operation on a register. -/
inductive Operation where
  | add (part : CompletedPart)
  | finalize
  | size

/-- What a register replies: a part is accepted or refused, the parts are handed back, or their number is told. -/
inductive Reply where
  | accepted
  | refused (failure : Failure)
  | parts (parts : List CompletedPart)
  | count (n : Nat)

/-- The part that an operation brings. -/
def Operation.part? : Operation → Option CompletedPart
  | .add part => some part
  | .finalize | .size => none

/-- The reply to an operation, and the register after it. -/
def perform (r : Register) : Operation → Reply × Register
  | .add part => match r.add part with
    | .ok r' => (.accepted, r')
    | .error e => (.refused e, r)
  | .finalize => (.parts r.parts, r)
  | .size => (.count r.size, r)

/-- The register after operations, one after the other. -/
def after (r : Register) (operations : List Operation) : Register :=
  operations.foldl (fun r operation => (r.perform operation).2) r

/-- Operations, one after the other, with the replies to them. -/
def transcript (r : Register) : List Operation → List (Operation × Reply)
  | [] => []
  | operation :: rest => (operation, (r.perform operation).1) :: (r.perform operation).2.transcript rest

/-- The part that was accepted. -/
def acceptedPart? : Operation × Reply → Option CompletedPart
  | (operation, .accepted) => operation.part?
  | _ => none

/-- The parts that were accepted, in the order of their arrival. -/
def accepted (r : Register) (operations : List Operation) : List CompletedPart :=
  (r.transcript operations).filterMap acceptedPart?

/-- The parts that operations bring, in their order. -/
def arrivals (operations : List Operation) : List CompletedPart :=
  operations.filterMap Operation.part?

/-! ## What a register holds -/

/-- An operation adds the part that it accepts. -/
theorem perm_perform (r : Register) (operation : Operation) :
    (r.perform operation).2.parts.Perm
      (r.parts ++ (acceptedPart? (operation, (r.perform operation).1)).toList) := by
  cases operation with
  | add part =>
    by_cases h : ∃ p ∈ r.parts, p.number = part.number
    · obtain ⟨p, hp, hn⟩ := h
      simp [perform, add_of_mem hp hn, acceptedPart?]
    · obtain ⟨r', hadd, hperm⟩ := add_of_forall_ne fun p hp hn => h ⟨p, hp, hn⟩
      simp only [perform, hadd, acceptedPart?, Operation.part?, Option.toList]
      exact hperm.trans (List.perm_append_singleton part r.parts).symm
  | finalize => simp [perform, acceptedPart?]
  | size => simp [perform, acceptedPart?]

theorem accepted_cons (r : Register) (operation : Operation) (rest : List Operation) :
    r.accepted (operation :: rest) =
      (acceptedPart? (operation, (r.perform operation).1)).toList ++ (r.perform operation).2.accepted rest := by
  simp only [accepted, transcript, List.filterMap_cons]
  cases acceptedPart? (operation, (r.perform operation).1) <;> rfl

/-- A register holds what it held before and what was accepted since. -/
theorem perm_after (r : Register) (operations : List Operation) :
    (r.after operations).parts.Perm (r.parts ++ r.accepted operations) := by
  induction operations generalizing r with
  | nil => simp [after, accepted, transcript]
  | cons operation rest ih =>
    rw [accepted_cons, ← List.append_assoc]
    exact (ih (r.perform operation).2).trans ((perm_perform r operation).append_right _)

/-- Of parts with new numbers, each another one, none is refused. -/
theorem accepted_eq_arrivals {r : Register} {operations : List Operation}
    (h : ((r.parts ++ arrivals operations).map (·.number)).Nodup) : r.accepted operations = arrivals operations := by
  induction operations generalizing r with
  | nil => rfl
  | cons operation rest ih =>
    cases operation with
    | add part =>
      have harrivals : arrivals (.add part :: rest) = part :: arrivals rest := rfl
      rw [harrivals, List.perm_middle.map _ |>.nodup_iff, List.map_cons, List.nodup_cons] at h
      have hnew : ∀ p ∈ r.parts, p.number ≠ part.number := fun p hp he =>
        h.1 (he ▸ List.mem_map_of_mem (List.mem_append_left _ hp))
      obtain ⟨r', hadd, hperm⟩ := add_of_forall_ne hnew
      have hperform : r.perform (.add part) = (.accepted, r') := by rw [perform, hadd]
      have hrest : ((r'.parts ++ arrivals rest).map (·.number)).Nodup := by
        rw [(hperm.append_right _).map _ |>.nodup_iff, List.cons_append, List.map_cons, List.nodup_cons]
        exact h
      rw [accepted_cons, hperform, ih hrest, harrivals]
      rfl
    | finalize =>
      rw [accepted_cons]
      exact ih h
    | size =>
      rw [accepted_cons]
      exact ih h

/-! ## The replies of a register -/

theorem perm_accepted (history : List Operation) : (empty.after history).parts.Perm (empty.accepted history) :=
  perm_after empty history

/-- **What a register replies after any history**: a part is refused exactly if one of its number was accepted before,
and then nothing changes; the accepted parts are handed back, each once and ascending by number, as often as they are
asked for; and another history that brings the same parts of different numbers leads to the same list. -/
theorem replies_after (history : List Operation) :
    let r := empty.after history
    (∀ part, (∃ p ∈ empty.accepted history, p.number = part.number) →
      r.perform (.add part) = (.refused (.value (.partRegistered part.number)), r)) ∧
    (∀ part, (∀ p ∈ empty.accepted history, p.number ≠ part.number) → (r.perform (.add part)).1 = .accepted) ∧
    (∃ parts, r.perform .finalize = (.parts parts, r) ∧ parts.Perm (empty.accepted history) ∧
      parts.Pairwise (fun p q => p.number < q.number)) ∧
    r.perform .size = (.count (empty.accepted history).length, r) ∧
    (∀ history', (arrivals history').Perm (arrivals history) → ((arrivals history).map (·.number)).Nodup →
      ((empty.after history').perform .finalize).1 = (r.perform .finalize).1) := by
  have hperm := perm_accepted history
  refine ⟨fun part ⟨p, hp, hn⟩ => ?_, fun part hnew => ?_, ⟨_, rfl, hperm, (empty.after history).ascending⟩, ?_, ?_⟩
  · rw [perform, add_of_mem (hperm.mem_iff.2 hp) hn]
  · obtain ⟨r', hadd, -⟩ := add_of_forall_ne fun p hp => hnew p (hperm.mem_iff.1 hp)
    rw [perform, hadd]
  · rw [perform, size, hperm.length_eq]
  · intro history' harrivals hn
    have hn' : ((arrivals history').map (·.number)).Nodup := (harrivals.map _).nodup_iff.2 hn
    -- of either history all arrivals have been accepted
    have hsame : (empty.after history').parts = (empty.after history).parts := by
      refine parts_eq_of_perm ((perm_accepted history').trans (.trans ?_ hperm.symm))
      rw [accepted_eq_arrivals (r := empty) hn', accepted_eq_arrivals (r := empty) hn]
      exact harrivals
    rw [perform, perform, hsame]

/-- A second part of the number 7 is refused, and two orders of the same additions lead to the same list. -/
theorem replies_after_two_parts :
    let r := empty.after [.add ⟨7, "c"⟩, .finalize, .add ⟨-1, "a"⟩]
    r.perform (.add ⟨7, "x"⟩) = (.refused (.value (.partRegistered 7)), r) ∧
      (r.perform (.add ⟨2, "b"⟩)).1 = .accepted ∧
      ((empty.after [.add ⟨-1, "a"⟩, .add ⟨7, "c"⟩]).perform .finalize).1 = (r.perform .finalize).1 := by
  obtain ⟨hrefused, haccepted, -, -, horder⟩ := replies_after [.add ⟨7, "c"⟩, .finalize, .add ⟨-1, "a"⟩]
  exact ⟨hrefused ⟨7, "x"⟩ (by decide), haccepted ⟨2, "b"⟩ (by decide),
    horder [.add ⟨-1, "a"⟩, .add ⟨7, "c"⟩] (by decide) (by decide)⟩

end BucketClient.Register
