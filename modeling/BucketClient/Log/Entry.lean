import BucketClient.Failure
import BucketClient.Text.Word

/-!
# Entries of a set-up

A set-up is a table whose entries are plain values, further tables, finished parts such as handlers, and the one level
that is about to be set. A path names an entry from the outside in: a word, then for each step either a point and a
word, or a word in brackets; blanks may stand around the words. A word of digits in brackets counts from zero.

Main statements: reading a step leaves less text than there was (`length_readStep_lt`), and a path is read to its end
or to a place where no step begins (`readStep_readSteps`).
-/

namespace BucketClient.Log

/-- An entry of a set-up. -/
inductive Entry where
  | value (v : Value)
  /-- A finished part, of which only its shape and its text are known. -/
  | part (shape shown : String)
  /-- The level that is about to be set. -/
  | pending
  | table (fields : List (String × Entry))
  deriving Inhabited, Repr

/-- A step of a path. -/
inductive Step where
  | name (word : String)
  | index (word : String)
  deriving DecidableEq, Repr

namespace Entry

mutual

/-- The exact text of an entry. A table that holds the level about to be set is shown only where that level was found
to be the table, or a table around it; so the level shows as something already shown. -/
def exactText : Entry → Except Failure String
  | .value v => v.exactText
  | .part _ shown => .ok shown
  | .pending => .ok "\x7b...\x7d"
  | .table fields => (exactFields fields).map fun texts => "\x7b" ++ ", ".intercalate texts ++ "\x7d"

/-- The exact texts of the fields of a table. -/
def exactFields : List (String × Entry) → Except Failure (List String)
  | [] => .ok []
  | (name, e) :: rest => do
    let text ← exactText e
    return (Text.quoted name ++ ": " ++ text) :: (← exactFields rest)

end

/-- An entry that has been come upon; the level about to be set would have to be found first. -/
def reached : Entry → Except Failure Entry
  | .pending => .error (.reference .endless)
  | e => .ok e

/-- The entry of a name. -/
def named (name : String) : Entry → Except Failure Entry
  | .value v => (v.required name).map .value
  | .part shape _ => .error (.type (.notIndexable shape))
  | .pending => .error (.reference .endless)
  | .table fields => match fields.lookup name with
    | some e => e.reached
    | none => .error (.missingField name)

/-- The largest number that can count the elements of a list. -/
def maxIndex : Nat := Nat.pow 2 63 - 1

/-- The element of a list at a place; `beyond` is wrong with a place behind the last one. -/
def elementAt {α : Type} (items : List α) (n : Nat) (beyond : Failure) : Except Failure α :=
  match items[n]? with
  | some a => .ok a
  | none => .error (if maxIndex < n then .reference .hugeIndex else beyond)

/-- The entry at a place: of a text a character, of a list an element; the fields of a record have no places. -/
def numbered (n : Nat) : Entry → Except Failure Entry
  | .value (.text s) =>
    (elementAt s.toList n (.reference .behindText)).map fun c => .value (.text (String.singleton c))
  | .value (.list items) => (elementAt items n (.reference .behindList)).map .value
  | .value (.record _) | .table _ => .error (.reference (.noPlace n))
  | .value v => .error (.type (.notIndexable v.shape))
  | .part shape _ => .error (.type (.notIndexable shape))
  | .pending => .error (.reference .endless)

/-- The entry that a step leads to. -/
def item (e : Entry) : Step → Except Failure Entry
  | .name word => e.named word
  | .index word =>
    if word.toList.all fun c => (Text.digit? c).isSome then
      match Text.readNumeral word with
      | .ok n => e.numbered n.toNat
      | .error fault => .error (.value (.numeral fault))
    else e.named word

end Entry

/-! ## Reading paths -/

namespace Path

/-- Reads a word with the blanks around it. -/
def readWord (text : List Char) : Option (String × List Char) :=
  let rest := text.dropWhile Text.isBlank
  let word := rest.takeWhile Text.isWordPart
  if word = [] then none
  else some (String.ofList word, (rest.dropWhile Text.isWordPart).dropWhile Text.isBlank)

/-- Reads a step. -/
def readStep : List Char → Option (Step × List Char)
  | '.' :: rest => (readWord rest).map fun (word, rest) => (.name word, rest)
  | '[' :: rest => match readWord rest with
    | some (word, ']' :: rest) => some (.index word, rest.dropWhile Text.isBlank)
    | _ => none
  | _ => none

theorem length_readWord_le {text rest : List Char} {word : String} (h : readWord text = some (word, rest)) :
    rest.length ≤ text.length := by
  simp only [readWord] at h
  split at h
  · simp at h
  · simp only [Option.some.injEq, Prod.mk.injEq] at h
    rw [← h.2]
    exact ((List.dropWhile_sublist _).trans ((List.dropWhile_sublist _).trans (List.dropWhile_sublist _))).length_le

theorem length_readStep_lt {text rest : List Char} {step : Step} (h : readStep text = some (step, rest)) :
    rest.length < text.length := by
  unfold readStep at h
  split at h
  · obtain ⟨⟨word, left⟩, hw, he⟩ := Option.map_eq_some_iff.1 h
    simp only [Prod.mk.injEq] at he
    have := length_readWord_le hw
    simp only [← he.2, List.length_cons]
    omega
  · split at h
    · rename_i left hw
      simp only [Option.some.injEq, Prod.mk.injEq] at h
      have := length_readWord_le hw
      have := (List.dropWhile_sublist Text.isBlank (l := left)).length_le
      simp only [← h.2, List.length_cons] at *
      omega
    · simp at h
  · simp at h

/-- Reads steps as far as they go, and what is left. -/
def readSteps (text : List Char) : List Step × List Char :=
  match _h : readStep text with
  | none => ([], text)
  | some (step, rest) =>
    let (steps, left) := readSteps rest
    (step :: steps, left)
termination_by text.length
decreasing_by exact length_readStep_lt ‹_›

/-- What is left behind the steps does not begin with a step. -/
theorem readStep_readSteps (text : List Char) : readStep (readSteps text).2 = none := by
  fun_induction readSteps text <;> simp_all

end Path

/-- The entry that a path names in a table. -/
def Entry.find (root : Entry) (path : String) : Except Failure Entry :=
  match Path.readWord path.toList with
  | none => .error (.reference (.noWord path))
  | some (word, rest) =>
    let (steps, left) := Path.readSteps rest
    do
      let e ← steps.foldlM item (← root.named word)
      if left = [] then .ok e else .error (.reference (.noStep path (String.ofList left)))

end BucketClient.Log
