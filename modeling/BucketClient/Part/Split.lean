import BucketClient.Part.Source

/-!
# Splitting a source into parts

A source is cut into numbered parts of a given size, the last one shorter. A part is filled by reading again and again
for what it still misses, so that short replies make no short parts; a reply that is longer than asked for is kept
whole. A failing read ends the split with a piece that carries the failure, and the bytes of the unfinished part are
dropped.

The split is a list of pulls (`pulls`). One pull is what happens between asking for a part and getting it: the sizes
of the reads that were made, and what came of them. Taking the first pulls of the list is stopping there.
-/

namespace BucketClient

/-- What came of asking for the next part. -/
inductive Piece where
  /-- A part with its bytes. -/
  | part (number : Nat) (data : ByteArray)
  /-- The source failed within this part. -/
  | unreadable (number : Nat) (error : Failure)
  /-- The source was interrupted. -/
  | interrupted (error : Failure)
  /-- The data ended with the part before. -/
  | finished

/-- The bytes that came of asking for a part; none when the data had ended. -/
def Piece.content : Piece → Except Failure ByteArray
  | .part _ data => .ok data
  | .unreadable _ error | .interrupted error => .error error
  | .finished => .ok ByteArray.empty

/-- One request for a part: the sizes of the reads made for it, and what came of them. -/
structure Pull where
  reads : List Nat
  piece : Piece

namespace Split

/-- What comes of a part when the data ends within it; an empty part counts only if it is the first. -/
def lastPiece (number : Nat) (data : ByteArray) : Piece :=
  if data.isEmpty && 1 < number then .finished else .part number data

/-- What comes of a part when a read for it fails. -/
def failedPiece (number : Nat) (error : Failure) : Piece :=
  if error.isInterrupt then .interrupted error else .unreadable number (.unreadablePart number error)

/-- Pulls with one more read made before those of the first one. -/
def readBefore (asked : Nat) : List Pull → List Pull
  | [] => []
  | pull :: rest => { pull with reads := asked :: pull.reads } :: rest

/-- The pulls of a source for parts of `size` bytes, when the part `number` has got `data` so far. -/
def pullsFrom (size number : Nat) (data : ByteArray) : Source → List Pull
  | .exhausted => [⟨[size - data.size], lastPiece number data⟩]
  | .reading reply rest =>
    let asked := size - data.size
    match reply asked with
    | .failed error => [⟨[asked], failedPiece number error⟩]
    | .block block =>
      if block.isEmpty then [⟨[asked], lastPiece number data⟩]
      else
        let filled := data ++ block
        if size ≤ filled.size then
          ⟨[asked], .part number filled⟩ :: pullsFrom size (number + 1) ByteArray.empty (rest asked)
        else readBefore asked (pullsFrom size number filled (rest asked))

theorem readBefore_eq_nil_iff {asked : Nat} {pulls : List Pull} : readBefore asked pulls = [] ↔ pulls = [] := by
  cases pulls <;> simp [readBefore]

theorem pullsFrom_ne_nil (size number : Nat) (data : ByteArray) (source : Source) :
    pullsFrom size number data source ≠ [] := by
  induction source generalizing data with
  | exhausted => simp [pullsFrom]
  | reading reply rest ih =>
    simp only [pullsFrom]
    split
    · simp
    · split
      · simp
      · split
        · simp
        · exact fun h => ih _ _ (readBefore_eq_nil_iff.1 h)

end Split

/-- The pulls of a source for parts of `size` bytes. -/
def Source.pulls (size : Nat) (source : Source) : List Pull :=
  Split.pullsFrom size 1 ByteArray.empty source

theorem Source.pulls_ne_nil (size : Nat) (source : Source) : source.pulls size ≠ [] :=
  Split.pullsFrom_ne_nil size 1 ByteArray.empty source

/-- The pull of the first part, which every source has, if only an empty one. -/
def Source.firstPull (size : Nat) (source : Source) : Pull :=
  (source.pulls size).head (source.pulls_ne_nil size)

/-- The pulls of a source for parts of a size that is checked to be there and positive. -/
def splitParts (partSize : Option Int) (source : Source) : Except Failure (List Pull) :=
  match partSize with
  | none => .error (.missingBefore "<=")
  | some partSize => if partSize ≤ 0 then .error (.value .partSize) else .ok (source.pulls partSize.toNat)

end BucketClient
