import BucketClient.Proofs.Client.Command
import BucketClient.Proofs.Listing.Course

/-!
# Histories of a client

A deed is a command together with what came of it, where a listing counts as done when it has been read to its end.
`Client.Performs` says that deeds are done one after the other, and what state they lead to.
-/

namespace BucketClient

variable {σ : Type}

namespace Command

/-- What is gained by a command that succeeds; of a listing, all the items that it delivers. -/
@[reducible] def Gain : Command → Type
  | .createObject .. => String
  | .getObject .. => Body × ObjectInfo
  | .statObject .. => ObjectInfo
  | .deleteObject .. | .createBucket .. | .setBucketAcl .. | .statBucket .. | .deleteBucket .. => Unit
  | .listObjects .. => List (Item ObjectInfo)
  | .listBuckets => List (Item BucketInfo)

/-- This is gained from what a command yields: a walk is read to its end, anything else is the gain itself. -/
def Gains : (command : Command) → command.Yield σ → Observed σ → command.Gain → Observed σ → Prop
  | .listObjects .., walk, o, items, o' | .listBuckets, walk, o, items, o' => walk.Reads o items o'
  | .createObject .., value, o, gain, o' | .getObject .., value, o, gain, o' | .statObject .., value, o, gain, o'
  | .deleteObject .., value, o, gain, o' | .createBucket .., value, o, gain, o'
  | .setBucketAcl .., value, o, gain, o' | .statBucket .., value, o, gain, o'
  | .deleteBucket .., value, o, gain, o' => gain = value ∧ o' = o

end Command

/-- A command with what came of it. -/
structure Deed where
  command : Command
  outcome : Except Failure command.Gain

/-- An operation has ended with this outcome in this state, when `gains` says what is gained from what it returns. -/
def Upload.Report.Ends {α β : Type} (report : Upload.Report σ α) (gains : α → Observed σ → β → Observed σ → Prop)
    (outcome : Except Failure β) (o' : Observed σ) : Prop :=
  match report.result with
  | .error e => outcome = .error e ∧ o' = report.after
  | .ok value => ∃ gain, outcome = .ok gain ∧ gains value report.after gain o'

/-- Nothing is left to be read of what an operation returns. -/
theorem Upload.Report.ends_iff {α : Type} {report : Upload.Report σ α} {outcome : Except Failure α}
    {o' : Observed σ} :
    report.Ends (fun value o gain o' => gain = value ∧ o' = o) outcome o' ↔
      outcome = report.result ∧ o' = report.after := by
  unfold Ends
  cases report.result with
  | error e => rfl
  | ok value =>
    constructor
    · rintro ⟨gain, rfl, rfl, rfl⟩
      exact ⟨rfl, rfl⟩
    · rintro ⟨rfl, rfl⟩
      exact ⟨value, rfl, rfl, rfl⟩

/-- Whoever reads a walk that has a course receives the items of the course. -/
theorem Upload.Report.ends_iff_of_course {μ α : Type} {walk : Walk σ μ α} {o o₁ o' : Observed σ} {markers : List μ}
    {items : List (Item α)} {outcome : Except Failure (List (Item α))}
    (h : walk.Course walk.start o markers items o₁) :
    (Upload.Report.ofResult (.ok walk, o)).Ends Walk.Reads outcome o' ↔ outcome = .ok items ∧ o' = o₁ := by
  constructor
  · rintro ⟨items', rfl, hr⟩
    obtain ⟨rfl, rfl⟩ := h.eq_of_reads hr
    exact ⟨rfl, rfl⟩
  · rintro ⟨rfl, rfl⟩
    exact ⟨items, rfl, h.reads⟩

namespace Client

/-- A deed is done in a state and leads to another. -/
def Does (client : Client σ) (o : Observed σ) (deed : Deed) (o' : Observed σ) : Prop :=
  (client.issue deed.command o).Ends deed.command.Gains deed.outcome o'

theorem does_iff {client : Client σ} {command : Command} {o o' : Observed σ}
    {report : Upload.Report σ (command.Yield σ)} (h : client.issue command o = report)
    {outcome : Except Failure command.Gain} :
    client.Does o ⟨command, outcome⟩ o' ↔ report.Ends command.Gains outcome o' := by
  rw [Does, h]

/-- Deeds are done one after the other. -/
inductive Performs (client : Client σ) : Observed σ → List Deed → Observed σ → Prop
  | nil {o : Observed σ} : Performs client o [] o
  | cons {deed : Deed} {deeds : List Deed} {o o₁ o' : Observed σ} (h : client.Does o deed o₁)
      (hs : Performs client o₁ deeds o') : Performs client o (deed :: deeds) o'

end Client

end BucketClient
