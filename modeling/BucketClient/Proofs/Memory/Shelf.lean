import BucketClient.Memory.Store
import BucketClient.Proofs.Client.History
import BucketClient.Proofs.Part.Yielded
import Mathlib.Data.List.Sort

/-!
# The shelf

A storage service at its plainest: a map from buckets and keys to objects, and a map from names of buckets to their
access rules. `Shelf.Admits` gives the outcome of each command of a client on a shelf, and the shelf after it. Nothing
of paths, upload sessions, pages and counts is left here. The entity tag of a new object is up to the service
(`Admits.exists_tag`); all else is determined by the two maps (`Admits.unique`).
-/

namespace BucketClient

/-- An object on a shelf. -/
structure Shelf.Entry where
  data : ByteArray
  tag : String
  contentType : Option String

/-- The objects by bucket and key, and the access rules of the buckets. -/
structure Shelf where
  objects : String → String → Option Shelf.Entry
  rules : String → Option String

namespace Shelf

/-- What is known of an object. -/
def Entry.info (entry : Entry) (key : String) : ObjectInfo where
  key := key
  size := entry.data.size
  tag := .text entry.tag
  contentType := entry.contentType.elim .null .text

/-- The bytes of an object from an offset on, up to a length unless it is zero. -/
def Entry.stretch (entry : Entry) (offset length : Int) : ByteArray :=
  entry.data.extract offset.toNat (if length = 0 then entry.data.size else offset.toNat + length.toNat)

/-- A shelf without objects and buckets. -/
def empty : Shelf where
  objects := fun _ _ => none
  rules := fun _ => none

/-- The shelf with another object under a bucket and a key, or without one. -/
def setObject (shelf : Shelf) (bucket key : String) (entry : Option Entry) : Shelf :=
  { shelf with objects := fun b k => if b = bucket ∧ k = key then entry else shelf.objects b k }

/-- The shelf with another access rule for a bucket, or without the bucket. -/
def setRule (shelf : Shelf) (bucket : String) (rule : Option String) : Shelf :=
  { shelf with rules := fun b => if b = bucket then rule else shelf.rules b }

/-- What a command comes to on a shelf. All buckets have been created at the time `now`. -/
inductive Admits (now : Value) (shelf : Shelf) : (command : Command) → Except Failure command.Gain → Shelf → Prop
  /-- The bytes of the source become the object, in place of the one that was there. -/
  | created {name key tag : String} {size : Int} {source : Source} {contentType : Option String} {bytes : ByteArray}
      (hs : source.Yields bytes) (hn : size = bytes.size) :
      Admits now shelf (.createObject name key size source contentType) (.ok tag)
        (shelf.setObject (Text.strip name) key (some ⟨bytes, tag, contentType⟩))
  | read {name key : String} {offset length : Int} {entry : Entry}
      (h : shelf.objects (Text.strip name) key = some entry) :
      Admits now shelf (.getObject name key offset length) (.ok (entry.stretch offset length, entry.info key)) shelf
  | unread {name key : String} {offset length : Int} (h : shelf.objects (Text.strip name) key = none) :
      Admits now shelf (.getObject name key offset length)
        (.error (.storage (.unknownObject (Memory.objectPath (Text.strip name) key)))) shelf
  | told {name key : String} {entry : Entry} (h : shelf.objects (Text.strip name) key = some entry) :
      Admits now shelf (.statObject name key) (.ok (entry.info key)) shelf
  | untold {name key : String} (h : shelf.objects (Text.strip name) key = none) :
      Admits now shelf (.statObject name key)
        (.error (.storage (.unknownObject (Memory.objectPath (Text.strip name) key)))) shelf
  /-- An object is gone after its deletion, whether it was there or not. -/
  | deleted {name key : String} :
      Admits now shelf (.deleteObject name key) (.ok ()) (shelf.setObject (Text.strip name) key none)
  | bucketCreated {name : String} {given : Option String} (h : shelf.rules (Text.strip name) = none) :
      Admits now shelf (.createBucket name given) (.ok ())
        (shelf.setRule (Text.strip name) (some (Text.lower (Text.strip (given.getD "")))))
  /-- A bucket is not created a second time. -/
  | bucketExists {name rule : String} {given : Option String} (h : shelf.rules (Text.strip name) = some rule) :
      Admits now shelf (.createBucket name given) (.error (.storage (.bucketExists (Text.strip name)))) shelf
  | ruleSet {name rule : String} {given : Option String} (h : shelf.rules (Text.strip name) = some rule) :
      Admits now shelf (.setBucketAcl name given) (.ok ())
        (shelf.setRule (Text.strip name) (some (Text.lower (Text.strip (given.getD "")))))
  | ruleUnset {name : String} {given : Option String} (h : shelf.rules (Text.strip name) = none) :
      Admits now shelf (.setBucketAcl name given) (.error (.storage (.unknownBucket (Text.strip name)))) shelf
  | bucketTold {name rule : String} (h : shelf.rules (Text.strip name) = some rule) :
      Admits now shelf (.statBucket name) (.ok ()) shelf
  | bucketUntold {name : String} (h : shelf.rules (Text.strip name) = none) :
      Admits now shelf (.statBucket name) (.error (.storage (.unknownBucket (Text.strip name)))) shelf
  /-- A bucket without objects is gone after its deletion, whether it was there or not. -/
  | bucketDeleted {name : String} (h : ∀ key, shelf.objects (Text.strip name) key = none) :
      Admits now shelf (.deleteBucket name) (.ok ()) (shelf.setRule (Text.strip name) none)
  /-- A bucket is kept as long as it holds an object. -/
  | bucketKept {name key : String} {entry : Entry} (h : shelf.objects (Text.strip name) key = some entry) :
      Admits now shelf (.deleteBucket name) (.error (.storage (.bucketNotEmpty (Text.strip name)))) shelf
  /-- The objects of a bucket whose keys start with the stem, in ascending order of their keys. -/
  | objectsListed {name stem : String} {infos : List ObjectInfo} (hs : (infos.map (·.key)).Pairwise (· < ·))
      (h : ∀ info, info ∈ infos ↔ stem.toList <+: info.key.toList ∧
        ∃ entry, shelf.objects (Text.strip name) info.key = some entry ∧ info = entry.info info.key) :
      Admits now shelf (.listObjects name stem true) (.ok (infos.map .value)) shelf
  /-- All buckets, in ascending order of their names. -/
  | bucketsListed {infos : List BucketInfo} (hs : (infos.map (·.name)).Pairwise (· < ·))
      (h : ∀ info, info ∈ infos ↔ (∃ rule, shelf.rules info.name = some rule) ∧ info.createdAt = now) :
      Admits now shelf .listBuckets (.ok (infos.map .value)) shelf

/-! ## What the maps determine -/

theorem eq_of_pairwise_lt {α : Type} (key : α → String) {xs ys : List α} (hx : (xs.map key).Pairwise (· < ·))
    (hy : (ys.map key).Pairwise (· < ·)) (h : ∀ a, a ∈ xs ↔ a ∈ ys) : xs = ys := by
  have hasymm : Std.Antisymm fun a b : α => key a < key b := ⟨fun _ _ hab hba => absurd hba (String.lt_asymm hab)⟩
  have hirrefl : Std.Irrefl fun a b : α => key a < key b := ⟨fun _ => Std.lt_irrefl⟩
  exact (List.pairwise_map.1 hx).eq_of_mem_iff (List.pairwise_map.1 hy) h

section

variable {now : Value} {shelf shelf₁ shelf₂ : Shelf}

/-- The object that is created is determined but for its tag. -/
theorem Admits.exists_tag {name key : String} {size : Int} {source : Source} {contentType : Option String}
    {bytes : ByteArray} {outcome : Except Failure String} (hs : source.Yields bytes)
    (h : shelf.Admits now (.createObject name key size source contentType) outcome shelf₁) :
    ∃ tag, outcome = .ok tag ∧ shelf₁ = shelf.setObject (Text.strip name) key (some ⟨bytes, tag, contentType⟩) := by
  cases h with
  | created hs' =>
    cases hs.unique hs'
    exact ⟨_, rfl, rfl⟩

/-- Any other command has one outcome at most. -/
theorem Admits.unique {command : Command} {outcome₁ outcome₂ : Except Failure command.Gain}
    (hc : ∀ name key size source contentType, command ≠ .createObject name key size source contentType)
    (h₁ : shelf.Admits now command outcome₁ shelf₁) (h₂ : shelf.Admits now command outcome₂ shelf₂) :
    outcome₁ = outcome₂ ∧ shelf₁ = shelf₂ := by
  cases h₁ with
  | created => exact absurd rfl (hc _ _ _ _ _)
  | read | unread | told | untold | bucketCreated | bucketExists | ruleSet | ruleUnset | bucketTold | bucketUntold =>
    -- what the map has under the bucket and the key decides between the two outcomes of the command
    cases h₂ <;> simp_all
  | deleted =>
    cases h₂
    exact ⟨rfl, rfl⟩
  | bucketDeleted h =>
    cases h₂ with
    | bucketDeleted => exact ⟨rfl, rfl⟩
    | bucketKept h' => cases (h _).symm.trans h'
  | bucketKept h =>
    cases h₂ with
    | bucketDeleted h' => cases (h' _).symm.trans h
    | bucketKept => exact ⟨rfl, rfl⟩
  | objectsListed hs h =>
    cases h₂ with
    | objectsListed hs' h' =>
      rw [eq_of_pairwise_lt _ hs hs' fun info => (h info).trans (h' info).symm]
      exact ⟨rfl, rfl⟩
  | bucketsListed hs h =>
    cases h₂ with
    | bucketsListed hs' h' =>
      rw [eq_of_pairwise_lt _ hs hs' fun info => (h info).trans (h' info).symm]
      exact ⟨rfl, rfl⟩

end

/-- Deeds that come to pass one after the other. -/
inductive Runs (now : Value) : Shelf → List Deed → Shelf → Prop
  | nil {shelf : Shelf} : Runs now shelf [] shelf
  | cons {deed : Deed} {deeds : List Deed} {shelf shelf₁ shelf' : Shelf}
      (h : shelf.Admits now deed.command deed.outcome shelf₁) (hs : Runs now shelf₁ deeds shelf') :
      Runs now shelf (deed :: deeds) shelf'

theorem Runs.cons_inv {now : Value} {shelf shelf' : Shelf} {command : Command} {commands : List Command}
    {deeds : List Deed} (h : Runs now shelf deeds shelf') (hm : deeds.map Deed.command = command :: commands) :
    ∃ outcome rest shelf₁, deeds = ⟨command, outcome⟩ :: rest ∧ rest.map Deed.command = commands ∧
      shelf.Admits now command outcome shelf₁ ∧ Runs now shelf₁ rest shelf' := by
  cases h with
  | nil => cases hm
  | @cons deed rest _ shelf₁ _ hadmits hruns =>
    obtain ⟨rfl, hrest⟩ := List.cons.inj hm
    exact ⟨deed.outcome, rest, shelf₁, rfl, hrest, hadmits, hruns⟩

end Shelf

end BucketClient
