import BucketClient.Proofs.Part.Turns

/-!
# The chunks of a source

The pieces that a split hands out, read off the turns of the split (`Splits.map_piece_eq`): the whole parts of the bytes
that were given, and what comes of the rest.

* `chunks_of_blocks`: a source whose reads do not fail is cut into the chunks of the bytes that it gives, however its
  reads fall. Each read asks for what its part still misses, and none is made behind one that gave nothing.
* `chunks_of_failure`: of a source that fails, the whole parts before the failure are handed out, and then the failure.
-/

namespace BucketClient

namespace Split

/-! ## Parts of a byte string -/

/-- The first `k` parts of `size` bytes of a byte string, numbered from `n` on. -/
def partsFrom (size n k : Nat) (bytes : ByteArray) : List Piece :=
  (List.range k).map fun i => .part (n + i) (bytes.extract (i * size) ((i + 1) * size))

section

variable {size n k : Nat} {bytes : ByteArray}

theorem partsFrom_zero (size n : Nat) (bytes : ByteArray) : partsFrom size n 0 bytes = [] := rfl

/-- The parts behind the first one are those of the bytes behind it. -/
theorem partsFrom_append {part rest : ByteArray} (h : part.size = size) :
    partsFrom size n (k + 1) (part ++ rest) = .part n part :: partsFrom size (n + 1) k rest := by
  have hfirst : (part ++ rest).extract (0 * size) ((0 + 1) * size) = part := by
    rw [Nat.zero_mul, Nat.zero_add, Nat.one_mul]
    exact ByteArray.extract_append_eq_left h.symm
  have hnext : ∀ i, (part ++ rest).extract ((i + 1) * size) ((i + 1 + 1) * size) =
      rest.extract (i * size) ((i + 1) * size) := by
    intro i
    have hsucc : ∀ j, (j + 1) * size = part.size + j * size := fun j => by rw [Nat.succ_mul, Nat.add_comm, h]
    rw [hsucc (i + 1), hsucc i, ByteArray.extract_append_size_add]
  rw [partsFrom, List.range_succ_eq_map, List.map_cons, List.map_map, hfirst]
  congr 1
  refine List.map_congr_left fun i _ => ?_
  rw [Function.comp_apply, hnext, Nat.add_right_comm]
  rfl

end

/-! ## The pieces of a split -/

section

variable {size n : Nat} {data : ByteArray} {source : Source} {pulls : List Pull} {ending : Option Failure}

/-- **The pieces of a split** whose turns give no more than they ask for: the whole parts of the bytes that were given,
and what comes of the rest. -/
theorem Splits.map_piece_eq (h : Splits size n data source pulls ending) (hd : data.size < size)
    (hm : ∀ turn ∈ source.turns (pulls.flatMap Pull.reads), turn.bytes.size ≤ turn.asked) {bytes : ByteArray}
    (hb : bytes = data ++ gathered (source.turns (pulls.flatMap Pull.reads))) :
    pulls.map Pull.piece = partsFrom size n (bytes.size / size) bytes ++
      [stoppedPiece ending (n + bytes.size / size) (bytes.extract (bytes.size / size * size) bytes.size)] := by
  induction h generalizing bytes with
  | @part n data filled source reads rest ending hf _ ih =>
    rw [List.flatMap_cons, Source.turns_append] at hm hb
    obtain ⟨hown, hlater⟩ := List.forall_mem_append.1 hm
    have hsize : filled.size = size := (hf.size_of_full hd).2 hown
    have hfilled : filled = data ++ gathered (source.turns reads) := hf.data_eq
    rw [gathered_append, ← ByteArray.append_assoc, ← hfilled] at hb
    -- the part is cut off, and the parts behind it are those of the bytes behind it
    generalize hrest : gathered ((source.after reads).turns (rest.flatMap Pull.reads)) = left at hb
    have hnext : ByteArray.empty.size < size := by
      rw [ByteArray.size_empty]
      omega
    have hleft : left = ByteArray.empty ++ gathered ((source.after reads).turns (rest.flatMap Pull.reads)) := by
      rw [hrest, ByteArray.empty_append]
    have ih := ih hnext hlater hleft
    have hbytes : bytes.size = size + left.size := by rw [hb, ByteArray.size_append, hsize]
    have hcount : bytes.size / size = left.size / size + 1 := by
      rw [hbytes, Nat.add_comm, Nat.add_div_right _ (by omega)]
    have htail : bytes.extract ((left.size / size + 1) * size) bytes.size =
        left.extract (left.size / size * size) left.size := by
      rw [hbytes, hb, Nat.succ_mul, Nat.add_comm _ size, ← hsize]
      exact ByteArray.extract_append_size_add
    rw [List.map_cons, ih, hcount, htail, hb, partsFrom_append hsize, List.cons_append, Nat.add_right_comm,
      Nat.add_assoc]
  | @stop n data left source reads ending hf =>
    rw [List.flatMap_singleton] at hb
    have hleft : left = data ++ gathered (source.turns reads) := hf.data_eq
    have hlt := hf.size_of_stopped hd
    rw [hb, ← hleft, Nat.div_eq_of_lt hlt, partsFrom_zero, Nat.zero_mul, ByteArray.extract_zero_size]
    rfl

/-- The first parts have the bytes that the turns for them gave, if the source does not fail. -/
theorem Splits.joined_take (h : Splits size n data source pulls ending) (he : ending = none) (m : Nat) :
    joined ((pulls.take (m + 1)).map fun pull => pull.piece.payload) =
      data ++ gathered (source.turns ((pulls.take (m + 1)).flatMap Pull.reads)) := by
  induction h generalizing m with
  | @part n data filled source reads rest ending hf _ ih =>
    have hfilled : filled = data ++ gathered (source.turns reads) := hf.data_eq
    rw [List.take_succ_cons, List.map_cons, List.flatMap_cons, Source.turns_append, gathered_append,
      ← ByteArray.append_assoc, ← hfilled]
    cases m with
    | zero => rfl
    | succ m =>
      have ih := ih he m
      rw [ByteArray.empty_append] at ih
      rw [← ih]
      rfl
  | @stop n data left source reads ending hf =>
    subst he
    have hleft : left = data ++ gathered (source.turns reads) := hf.data_eq
    rw [List.take_succ_cons, List.take_nil, List.map_singleton, List.flatMap_singleton, ← hleft]
    exact ByteArray.append_empty.trans (payload_lastPiece n left)

/-- All pieces together have the bytes that were given, if the source does not fail. -/
theorem Splits.joined_eq (h : Splits size n ByteArray.empty source pulls none) :
    joined ((pulls.map Pull.piece).map Piece.payload) = gathered (source.turns (pulls.flatMap Pull.reads)) := by
  cases pulls with
  | nil => cases h
  | cons pull rest =>
    have hall := h.joined_take rfl rest.length
    rw [← List.length_cons (a := pull), List.take_length, ByteArray.empty_append] at hall
    rw [List.map_map]
    exact hall

/-- The bytes that are given start with those of the first piece, which is full if others follow. -/
theorem Splits.exists_first (h : Splits size n ByteArray.empty source pulls none) (h0 : 0 < size) :
    ∃ first others rest, pulls = first :: others ∧
      gathered (source.turns (pulls.flatMap Pull.reads)) = first.piece.payload ++ rest ∧
      (rest ≠ ByteArray.empty → size ≤ first.piece.payload.size) ∧
      ((∀ turn ∈ source.turns (pulls.flatMap Pull.reads), turn.bytes.size ≤ turn.asked) →
        first.piece.payload.size ≤ size) := by
  cases h with
  | @part _ _ filled _ reads others _ hf _ =>
    have hfilled : filled = ByteArray.empty ++ gathered (source.turns reads) := hf.data_eq
    obtain ⟨hle, heq⟩ := hf.size_of_full h0
    refine ⟨_, others, gathered ((source.after reads).turns (others.flatMap Pull.reads)), rfl, ?_, fun _ => hle,
      fun hm => ?_⟩
    · rw [ByteArray.empty_append] at hfilled
      rw [List.flatMap_cons, Source.turns_append, gathered_append, ← hfilled]
      rfl
    · rw [List.flatMap_cons, Source.turns_append] at hm
      exact Nat.le_of_eq (heq (List.forall_mem_append.1 hm).1)
  | @stop _ _ left _ reads _ hf =>
    have hleft : left = ByteArray.empty ++ gathered (source.turns reads) := hf.data_eq
    rw [ByteArray.empty_append] at hleft
    have hpayload : (stoppedPiece none n left).payload = left := payload_lastPiece n left
    refine ⟨_, [], ByteArray.empty, rfl, ?_, fun h => absurd rfl h, fun _ => ?_⟩
    · rw [List.flatMap_singleton, ByteArray.append_empty, hpayload, ← hleft]
    · rw [hpayload]
      exact Nat.le_of_lt (hf.size_of_stopped h0)

end

/-! ## What is handed out -/

end Split

/-- A chunk as a split hands it out. Its length and its data mean nothing if it has an error. -/
structure Chunk where
  number : Nat
  length : Nat := 0
  data : Option ByteArray := none
  error : Option Failure := none

namespace Chunk

/-- The chunk of a part. -/
def ofPart (number : Nat) (data : ByteArray) : Chunk :=
  { number := number, length := data.size, data := some data }

/-- The bytes of a chunk. -/
def payload (chunk : Chunk) : ByteArray :=
  chunk.data.getD ByteArray.empty

@[simp] theorem payload_ofPart (number : Nat) (data : ByteArray) : (ofPart number data).payload = data := rfl

end Chunk

/-- The chunk that is handed out for a piece, if there is one. -/
def Piece.chunk? : Piece → Option Chunk
  | .part number data => some (.ofPart number data)
  | .unreadable number error => some { number := number, error := some error }
  | .interrupted _ | .finished => none

namespace Split

/-- The chunks that a split hands out. -/
def chunks (pulls : List Pull) : List Chunk :=
  (pulls.map Pull.piece).filterMap Piece.chunk?

/-- The chunks of the first `k` parts of `size` bytes of a byte string. -/
def chunksOf (size k : Nat) (bytes : ByteArray) : List Chunk :=
  (List.range k).map fun i => .ofPart (i + 1) (bytes.extract (i * size) ((i + 1) * size))

section

variable {size n : Nat} {data bytes : ByteArray} {source : Source} {pulls : List Pull} {ending : Option Failure}

theorem filterMap_partsFrom (size k : Nat) (bytes : ByteArray) :
    (partsFrom size 1 k bytes).filterMap Piece.chunk? = chunksOf size k bytes := by
  have hchunk : (Piece.chunk? ∘ fun i => Piece.part (1 + i) (bytes.extract (i * size) ((i + 1) * size))) =
      some ∘ fun i => Chunk.ofPart (i + 1) (bytes.extract (i * size) ((i + 1) * size)) := by
    funext i
    rw [Function.comp_apply, Nat.add_comm]
    rfl
  rw [partsFrom, List.filterMap_map, hchunk, List.filterMap_eq_map, chunksOf]

theorem chunksOf_succ (size k : Nat) (bytes : ByteArray) : chunksOf size (k + 1) bytes =
    chunksOf size k bytes ++ [.ofPart (k + 1) (bytes.extract (k * size) ((k + 1) * size))] := by
  rw [chunksOf, List.range_succ, List.map_append]
  rfl

theorem chunksOf_empty (size : Nat) : chunksOf size 1 ByteArray.empty = [.ofPart 1 ByteArray.empty] := by
  have hnone : ByteArray.empty.extract (0 * size) ((0 + 1) * size) = ByteArray.empty :=
    ByteArray.extract_eq_empty_iff.2 (by rw [ByteArray.size_empty]; omega)
  rw [chunksOf_succ, hnone]
  rfl

theorem joined_chunksOf (size k : Nat) (bytes : ByteArray) :
    joined ((chunksOf size k bytes).map Chunk.payload) = bytes.extract 0 (k * size) := by
  induction k with
  | zero => rw [Nat.zero_mul, ByteArray.extract_same]; rfl
  | succ k ih =>
    rw [chunksOf_succ, List.map_append, joined_append, ih, List.map_singleton, Chunk.payload_ofPart]
    have hle : k * size ≤ (k + 1) * size := Nat.mul_le_mul_right size (Nat.le_succ k)
    rw [ByteArray.extract_eq_extract_append_extract (k * size) (Nat.zero_le _) hle]
    exact congrArg _ ByteArray.append_empty

/-- What is not handed out has no bytes. -/
theorem joined_filterMap (pieces : List Piece) :
    joined ((pieces.filterMap Piece.chunk?).map Chunk.payload) = joined (pieces.map Piece.payload) := by
  induction pieces with
  | nil => rfl
  | cons piece rest ih =>
    cases piece with
    | part _ data => exact congrArg (data ++ ·) ih
    | unreadable => exact congrArg (ByteArray.empty ++ ·) ih
    | interrupted | finished => exact ih.trans ByteArray.empty_append.symm

/-- The chunks are parts, numbered in turn, if the source does not fail. -/
theorem Splits.exists_ofPart (h : Splits size n data source pulls ending) (he : ending = none) {i : Nat} {chunk : Chunk}
    (hi : (chunks pulls)[i]? = some chunk) : ∃ data, chunk = .ofPart (n + i) data := by
  induction h generalizing i with
  | @part n data filled source reads rest ending _ _ ih =>
    have hchunks : chunks (⟨reads, .part n filled⟩ :: rest) = .ofPart n filled :: chunks rest := rfl
    rw [hchunks] at hi
    cases i with
    | zero => exact ⟨filled, (Option.some.inj hi).symm⟩
    | succ i =>
      obtain ⟨data, rfl⟩ := ih he hi
      exact ⟨data, by rw [Nat.add_right_comm]; rfl⟩
  | @stop n data left source reads ending _ =>
    subst he
    by_cases hlast : (left.isEmpty && 1 < n) = true
    · have hchunks : chunks [⟨reads, stoppedPiece none n left⟩] = [] := by
        simp [chunks, stoppedPiece, lastPiece, hlast, Piece.chunk?]
      simp [hchunks] at hi
    · have hchunks : chunks [⟨reads, stoppedPiece none n left⟩] = [.ofPart n left] := by
        simp [chunks, stoppedPiece, lastPiece, hlast, Piece.chunk?]
      rw [hchunks] at hi
      cases i with
      | zero => exact ⟨left, (Option.some.inj hi).symm⟩
      | succ i => simp at hi

/-- How many parts of `size` bytes there are in so many bytes: one at least. -/
def partCount (size length : Nat) : Nat :=
  max 1 ((length + size - 1) / size)

theorem partCount_zero (h0 : 0 < size) : partCount size 0 = 1 := by
  rw [partCount, Nat.div_eq_of_lt (by omega)]
  rfl

theorem partCount_mul {k : Nat} (h0 : 0 < size) (hk : 0 < k) : partCount size (k * size) = k := by
  have hdiv : (k * size + size - 1) / size = k := by
    refine Nat.div_eq_of_lt_le (by omega) ?_
    rw [Nat.succ_mul]
    omega
  rw [partCount, hdiv]
  omega

theorem partCount_mul_add {k r : Nat} (hr : 0 < r) (hlt : r < size) : partCount size (k * size + r) = k + 1 := by
  have hdiv : (k * size + r + size - 1) / size = k + 1 := by
    refine Nat.div_eq_of_lt_le ?_ ?_
    · rw [Nat.succ_mul]
      omega
    · rw [Nat.succ_mul, Nat.succ_mul]
      omega
  rw [partCount, hdiv]
  omega

/-- The parts reach to the end of the bytes. -/
theorem le_partCount_mul (h0 : 0 < size) (length : Nat) : length ≤ partCount size length * size := by
  have hdiv := Nat.div_add_mod (length + size - 1) size
  have hmod := Nat.mod_lt (length + size - 1) h0
  have hle : (length + size - 1) / size * size ≤ partCount size length * size :=
    Nat.mul_le_mul_right size (Nat.le_max_right 1 _)
  rw [Nat.mul_comm] at hdiv
  omega

/-- Every part starts before the end of the bytes, if there are any. -/
theorem mul_lt_of_lt_partCount {length i : Nat} (hl : 0 < length) (hi : i < partCount size length) :
    i * size < length := by
  by_cases hzero : i = 0
  · rw [hzero, Nat.zero_mul]
    exact hl
  · have hi : i < (length + size - 1) / size := by
      rw [partCount] at hi
      omega
    have hle : (i + 1) * size ≤ length + size - 1 :=
      Nat.le_trans (Nat.mul_le_mul_right size hi) (Nat.div_mul_le_self _ _)
    rw [Nat.succ_mul] at hle
    omega

/-- Positions behind the end of a byte string are its end. -/
theorem extract_of_size_le {first last : Nat} (h : bytes.size ≤ last) :
    bytes.extract first last = bytes.extract first bytes.size := by
  by_cases hf : first ≤ bytes.size
  · have hnone : bytes.extract bytes.size last = ByteArray.empty :=
      ByteArray.extract_eq_empty_iff.2 (Nat.min_le_right _ _)
    rw [ByteArray.extract_eq_extract_append_extract bytes.size hf h, hnone, ByteArray.append_empty]
  · rw [ByteArray.extract_eq_empty_iff.2 (by omega), ByteArray.extract_eq_empty_iff.2 (by omega)]

/-- The chunks of the whole parts of a byte string and of what comes of the rest. -/
theorem filterMap_append_lastPiece (h0 : 0 < size) (bytes : ByteArray) :
    (partsFrom size 1 (bytes.size / size) bytes ++
        [lastPiece (1 + bytes.size / size) (bytes.extract (bytes.size / size * size) bytes.size)]).filterMap
          Piece.chunk? = chunksOf size (partCount size bytes.size) bytes := by
  have hlength : bytes.size = bytes.size / size * size + bytes.size % size := by
    rw [Nat.mul_comm]
    exact (Nat.div_add_mod _ _).symm
  have hmod := Nat.mod_lt bytes.size h0
  generalize bytes.size / size = k at hlength ⊢
  generalize bytes.size % size = r at hlength hmod
  have htail : (bytes.extract (k * size) bytes.size).size = r := by
    rw [ByteArray.size_extract]
    omega
  rw [List.filterMap_append, filterMap_partsFrom]
  by_cases hr : r = 0
  · have hempty : (bytes.extract (k * size) bytes.size).isEmpty = true :=
      isEmpty_iff.2 (ByteArray.size_eq_zero_iff.1 (htail.trans hr))
    by_cases hk : k = 0
    · -- there are no bytes, and the only part has none
      have hzero : bytes.size = 0 := by rw [hlength, hk, hr, Nat.zero_mul]
      have hlast : lastPiece (1 + k) (bytes.extract (k * size) bytes.size) = .part 1 ByteArray.empty := by
        rw [isEmpty_iff.1 hempty, hk]
        rfl
      rw [hlast, hzero, partCount_zero h0, ByteArray.size_eq_zero_iff.1 hzero, chunksOf_empty, hk]
      rfl
    · have hfinished : lastPiece (1 + k) (bytes.extract (k * size) bytes.size) = .finished := by
        rw [lastPiece, if_pos (by simp only [hempty, Bool.true_and, decide_eq_true_eq]; omega)]
      rw [hfinished, hlength, hr, Nat.add_zero, partCount_mul h0 (Nat.pos_of_ne_zero hk)]
      exact List.append_nil _
  · have hne : ¬((bytes.extract (k * size) bytes.size).isEmpty && decide (1 < 1 + k)) = true := by
      rw [Bool.and_eq_true, isEmpty_iff, ← ByteArray.size_eq_zero_iff, htail]
      exact fun h => hr h.1
    have hend : bytes.extract (k * size) ((k + 1) * size) = bytes.extract (k * size) bytes.size :=
      extract_of_size_le (by rw [Nat.succ_mul]; omega)
    have hcount : partCount size bytes.size = k + 1 := by
      rw [hlength]
      exact partCount_mul_add (Nat.pos_of_ne_zero hr) hmod
    rw [lastPiece, if_neg hne, hcount, chunksOf_succ, hend, Nat.add_comm 1 k]
    rfl

end

/-! ## Chunkings -/

/-- No byte of a byte string is lost, repeated or out of order in these chunks, which are parts whose numbers have no
gap. -/
structure Unbroken (bytes : ByteArray) (chunks : List Chunk) : Prop where
  numbered : ∀ (i : Nat) (chunk : Chunk), chunks[i]? = some chunk → chunk.number = i + 1
  read : ∀ chunk ∈ chunks, chunk.error = none ∧ chunk.data = some chunk.payload ∧ chunk.length = chunk.payload.size
  joined_eq : joined (chunks.map Chunk.payload) = bytes

/-- These are the chunks of a byte string: all are full but the last one, which has some bytes; an empty string has one
chunk, which is empty. -/
structure Chunking (size : Nat) (bytes : ByteArray) (chunks : List Chunk) : Prop extends Unbroken bytes chunks where
  size_eq : ∀ (i : Nat) (chunk : Chunk), chunks[i]? = some chunk → i + 1 < chunks.length → chunk.payload.size = size
  size_le : ∀ chunk ∈ chunks, chunk.payload.size ≤ size
  ne_empty : bytes ≠ ByteArray.empty → ∀ chunk ∈ chunks, chunk.payload ≠ ByteArray.empty
  of_empty : bytes = ByteArray.empty → chunks = [.ofPart 1 ByteArray.empty]

theorem unbroken_of_ofPart {bytes : ByteArray} {chunks : List Chunk}
    (h : ∀ (i : Nat) (chunk : Chunk), chunks[i]? = some chunk → ∃ data, chunk = .ofPart (i + 1) data)
    (hj : joined (chunks.map Chunk.payload) = bytes) : Unbroken bytes chunks := by
  refine ⟨fun i chunk hi => ?_, fun chunk hmem => ?_, hj⟩
  · obtain ⟨data, rfl⟩ := h i chunk hi
    rfl
  · obtain ⟨i, hi⟩ := List.mem_iff_getElem?.1 hmem
    obtain ⟨data, rfl⟩ := h i chunk hi
    exact ⟨rfl, rfl, rfl⟩

theorem exists_of_getElem?_chunksOf {size k i : Nat} {bytes : ByteArray} {chunk : Chunk}
    (h : (chunksOf size k bytes)[i]? = some chunk) :
    i < k ∧ chunk = .ofPart (i + 1) (bytes.extract (i * size) ((i + 1) * size)) := by
  obtain ⟨hi, rfl⟩ := List.getElem?_eq_some_iff.1 h
  exact ⟨by simpa [chunksOf] using hi, by simp [chunksOf]⟩

theorem unbroken_chunksOf (size k : Nat) (bytes : ByteArray) :
    Unbroken (bytes.extract 0 (k * size)) (chunksOf size k bytes) :=
  unbroken_of_ofPart (fun _ _ h => ⟨_, (exists_of_getElem?_chunksOf h).2⟩) (joined_chunksOf size k bytes)

/-- A part that ends within a byte string is full. -/
theorem size_payload_of_chunksOf {size k i : Nat} {bytes : ByteArray} {chunk : Chunk}
    (h : (chunksOf size k bytes)[i]? = some chunk) (hi : (i + 1) * size ≤ bytes.size) : chunk.payload.size = size := by
  rw [(exists_of_getElem?_chunksOf h).2, Chunk.payload_ofPart, ByteArray.size_extract, Nat.min_eq_left hi, Nat.succ_mul,
    Nat.add_sub_cancel_left]

theorem chunking_chunksOf {size : Nat} (h0 : 0 < size) (bytes : ByteArray) :
    Chunking size bytes (chunksOf size (partCount size bytes.size) bytes) := by
  have hall : bytes.extract 0 (partCount size bytes.size * size) = bytes := by
    rw [extract_of_size_le (le_partCount_mul h0 _), ByteArray.extract_zero_size]
  have hsize : ∀ i, (bytes.extract (i * size) ((i + 1) * size)).size = min ((i + 1) * size) bytes.size - i * size :=
    fun i => ByteArray.size_extract
  have hunbroken := unbroken_chunksOf size (partCount size bytes.size) bytes
  rw [hall] at hunbroken
  refine ⟨hunbroken, fun i chunk h hi => ?_, fun chunk h => ?_, fun hne chunk h => ?_, ?_⟩
  · have hi : i + 1 < partCount size bytes.size := by simpa [chunksOf] using hi
    have hpos : 0 < bytes.size := by
      refine Nat.pos_of_ne_zero fun hzero => ?_
      rw [hzero, partCount_zero h0] at hi
      omega
    exact size_payload_of_chunksOf h (Nat.le_of_lt (mul_lt_of_lt_partCount hpos hi))
  · obtain ⟨i, h⟩ := List.mem_iff_getElem?.1 h
    rw [(exists_of_getElem?_chunksOf h).2, Chunk.payload_ofPart, hsize, Nat.succ_mul]
    omega
  · obtain ⟨i, h⟩ := List.mem_iff_getElem?.1 h
    obtain ⟨hi, rfl⟩ := exists_of_getElem?_chunksOf h
    have hlt := mul_lt_of_lt_partCount (size_pos_of_ne hne) hi
    rw [Chunk.payload_ofPart, Ne, ← ByteArray.size_eq_zero_iff, hsize, Nat.succ_mul]
    omega
  · rintro rfl
    rw [ByteArray.size_empty, partCount_zero h0, chunksOf_empty]

/-- The turns for one part: each asks for the bytes that are still missing, which are some but no more than a part has,
and there are no more turns than a part has bytes. -/
structure Sparing (size : Nat) (turns : List Turn) : Prop where
  asked_add : ∀ (before : List Turn) (turn : Turn) (behind : List Turn), turns = before ++ turn :: behind →
    turn.asked + (gathered before).size = size ∧ 0 < turn.asked
  length_le : turns.length ≤ size

theorem Fills.sparing {size : Nat} {turns : List Turn} {filling : Filling} (h0 : 0 < size)
    (h : Fills size ByteArray.empty turns filling) : Sparing size turns := by
  refine ⟨fun before turn behind ht => ?_, h.length_add_le h0⟩
  have hasked := h.asked_add h0 ht
  rwa [ByteArray.empty_append] at hasked

end Split

namespace Source

open Split

theorem splitParts_eq {size : Nat} (h0 : 0 < size) (source : Source) :
    splitParts (some (size : Int)) source = .ok (source.pulls size) := by
  have hpos : ¬(size : Int) ≤ 0 := by omega
  exact if_neg hpos

/-- **The chunks of a source whose reads do not fail.** It is read up to the first block that is empty, and no further.
Each part asks for what it still misses, the first parts take exactly their own bytes, and no byte is lost. If no read
gives more than it asks for, the parts are those of the bytes that were given, however the reads fell. The first parts
depend on the first replies only, whether the source ends behind them or not. -/
theorem chunks_of_blocks {size : Nat} {source : Source} (h0 : 0 < size)
    (hr : ∀ turn ∈ source.conversation size, ∃ block, turn.reply = .block block) :
    let bytes := gathered (source.conversation size)
    let pulls := source.pulls size
    splitParts (some (size : Int)) source = .ok pulls ∧
    (∃ giving asked, source.conversation size = giving ++ [⟨asked, .block ByteArray.empty⟩] ∧
      ∀ turn ∈ giving, turn.bytes ≠ ByteArray.empty) ∧
    (∀ first pull others, pulls = first ++ pull :: others →
      Sparing size ((source.after (first.flatMap Pull.reads)).turns pull.reads)) ∧
    (∀ m, gathered (source.turns ((pulls.take m).flatMap Pull.reads)) =
      joined ((pulls.take m).map fun pull => pull.piece.payload)) ∧
    Unbroken bytes (chunks pulls) ∧
    ((∀ turn ∈ source.conversation size, turn.bytes.size ≤ turn.asked) →
      chunks pulls = chunksOf size (partCount size bytes.size) bytes ∧ Chunking size bytes (chunks pulls)) ∧
    ∀ m other, source.Agrees (m * size) other → (other.pulls size).take m = pulls.take m := by
  intro bytes pulls
  obtain ⟨ending, h⟩ := exists_splits_pulls h0 source
  obtain ⟨giving, asked, hc, hg⟩ := h.turns_eq
  obtain rfl : ending = none := by
    obtain ⟨block, hlast⟩ := hr ⟨asked, closing ending⟩ (by rw [Source.conversation, hc]; simp)
    cases ending with
    | none => rfl
    | some e => cases hlast
  have hjoined : ∀ m, gathered (source.turns ((pulls.take m).flatMap Pull.reads)) =
      joined ((pulls.take m).map fun pull => pull.piece.payload) := by
    intro m
    cases m with
    | zero => rfl
    | succ m => rw [h.joined_take rfl m, ByteArray.empty_append]
  have hbytes : joined ((chunks pulls).map Chunk.payload) = bytes := by
    rw [chunks, joined_filterMap]
    exact h.joined_eq
  refine ⟨splitParts_eq h0 source, ⟨giving, asked, hc, hg⟩,
    fun first pull others hp => ?_, hjoined, unbroken_of_ofPart (fun i chunk hi => ?_) hbytes, fun hm => ?_,
    fun m other ha => (take_pulls_of_agrees h0 ha).symm⟩
  · have h : Splits size 1 ByteArray.empty source pulls none := h
    rw [hp] at h
    obtain ⟨filling, hf⟩ := h.exists_fills
    exact hf.sparing h0
  · rw [Nat.add_comm]
    exact h.exists_ofPart rfl hi
  · have hchunks : chunks pulls = chunksOf size (partCount size bytes.size) bytes := by
      have hgiven : bytes = ByteArray.empty ++ gathered (source.turns (pulls.flatMap Pull.reads)) :=
        ByteArray.empty_append.symm
      have hpieces := h.map_piece_eq h0 hm hgiven
      rw [chunks, hpieces]
      exact filterMap_append_lastPiece h0 bytes
    exact ⟨hchunks, hchunks ▸ chunking_chunksOf h0 bytes⟩

/-- Three bytes that come one by one are cut into a part of two bytes and one of the last byte. -/
theorem chunks_of_three_blocks :
    let source := replaying [.block ⟨#[1]⟩, .block ⟨#[2]⟩, .block ⟨#[3]⟩]
    source.conversation 2 =
        [⟨2, .block ⟨#[1]⟩⟩, ⟨1, .block ⟨#[2]⟩⟩, ⟨2, .block ⟨#[3]⟩⟩, ⟨1, .block ByteArray.empty⟩] ∧
      chunks (source.pulls 2) = [.ofPart 1 ⟨#[1, 2]⟩, .ofPart 2 ⟨#[3]⟩] := by
  intro source
  have hc : source.conversation 2 =
      [⟨2, .block ⟨#[1]⟩⟩, ⟨1, .block ⟨#[2]⟩⟩, ⟨2, .block ⟨#[3]⟩⟩, ⟨1, .block ByteArray.empty⟩] := rfl
  have hr : ∀ turn ∈ source.conversation 2, ∃ block, turn.reply = .block block := by
    rw [hc]
    simp
  obtain ⟨-, -, -, -, -, h, -⟩ := chunks_of_blocks (show 0 < 2 by decide) hr
  have hm : ∀ turn ∈ source.conversation 2, turn.bytes.size ≤ turn.asked := by
    rw [hc]
    decide
  refine ⟨hc, (h hm).1.trans ?_⟩
  rw [hc]
  rfl

/-- **The chunks of a source that fails.** A split makes reads that give bytes, and a last one, which gives none or
fails. If it fails, the chunks are the whole parts of the bytes given before, and one that has no data but the failure,
whose cause is that of the read. The bytes of the unfinished part are in no chunk. -/
theorem chunks_of_failure {size : Nat} (h0 : 0 < size) (source : Source) :
    splitParts (some (size : Int)) source = .ok (source.pulls size) ∧
    ∃ giving last, source.conversation size = giving ++ [last] ∧
      (∀ turn ∈ giving, turn.bytes ≠ ByteArray.empty) ∧
      (last.reply = .block ByteArray.empty ∨ ∃ e, last.reply = .failed e) ∧
      ∀ e, last.reply = .failed e → e.isInterrupt = false → (∀ turn ∈ giving, turn.bytes.size ≤ turn.asked) →
        let bytes := gathered giving
        let whole := bytes.size / size
        ∃ filled error, chunks (source.pulls size) = filled ++ [{ number := whole + 1, error := some error }] ∧
          error.kind = .chunkRead ∧ error.cause? = some e ∧
          filled.length = whole ∧ (∀ chunk ∈ filled, chunk.payload.size = size) ∧
          Unbroken (bytes.extract 0 (whole * size)) filled := by
  obtain ⟨ending, h⟩ := exists_splits_pulls h0 source
  obtain ⟨giving, asked, hc, hg⟩ := h.turns_eq
  refine ⟨splitParts_eq h0 source, giving, ⟨asked, closing ending⟩, hc, hg, ?_, fun e hlast hi hm => ?_⟩
  · cases ending with
    | none => exact .inl rfl
    | some e => exact .inr ⟨e, rfl⟩
  · cases ending with
    | none => cases hlast
    | some e =>
      cases hlast
      intro bytes whole
      -- the failing turn gives nothing
      have hgathered : bytes = gathered (source.turns ((source.pulls size).flatMap Pull.reads)) := by
        rw [hc, gathered_append, gathered_singleton, bytes_closing, ByteArray.append_empty]
      have hall : ∀ turn ∈ source.turns ((source.pulls size).flatMap Pull.reads), turn.bytes.size ≤ turn.asked := by
        rw [hc]
        refine List.forall_mem_append.2 ⟨hm, List.forall_mem_singleton.2 ?_⟩
        rw [bytes_closing]
        exact Nat.zero_le _
      have hpieces := h.map_piece_eq h0 hall (hgathered.trans ByteArray.empty_append.symm)
      have hfailed : stoppedPiece (some e) (1 + whole) (bytes.extract (whole * size) bytes.size) =
          .unreadable (whole + 1) (.unreadablePart (whole + 1) e) := by
        rw [stoppedPiece, failedPiece, if_neg (by simp [hi]), Nat.add_comm]
      refine ⟨chunksOf size whole bytes, .unreadablePart (whole + 1) e, ?_, rfl, rfl, by simp [chunksOf],
        fun chunk hmem => ?_, unbroken_chunksOf size whole bytes⟩
      · rw [chunks, hpieces, hfailed, List.filterMap_append, filterMap_partsFrom]
        rfl
      · obtain ⟨i, hi⟩ := List.mem_iff_getElem?.1 hmem
        have hlt := (exists_of_getElem?_chunksOf hi).1
        exact size_payload_of_chunksOf hi
          (Nat.le_trans (Nat.mul_le_mul_right size hlt) (Nat.div_mul_le_self bytes.size size))

/-- A source that fails at the end of the first part: the part is handed out, and then the failure. -/
theorem chunks_of_failure_on_boundary :
    ∃ filled error, chunks ((replaying [.block ⟨#[1, 2]⟩, .failed (.raised .system none)]).pulls 2) =
        filled ++ [{ number := 2, error := some error }] ∧
      error.cause? = some (.raised .system none) ∧ filled.length = 1 ∧ Unbroken ⟨#[1, 2]⟩ filled := by
  obtain ⟨-, giving, last, hc, -, -, h⟩ :=
    chunks_of_failure (show 0 < 2 by decide) (replaying [.block ⟨#[1, 2]⟩, .failed (.raised .system none)])
  have hturns : [⟨2, .block ⟨#[1, 2]⟩⟩] ++ [⟨2, .failed (.raised .system none)⟩] = giving ++ [last] := hc
  obtain ⟨rfl, hlast⟩ := List.append_inj' hturns rfl
  cases hlast
  obtain ⟨filled, error, hchunks, -, hcause, hlength, -, hunbroken⟩ := h _ rfl rfl (by decide)
  exact ⟨filled, error, hchunks, hcause, hlength, hunbroken⟩

end Source

end BucketClient
