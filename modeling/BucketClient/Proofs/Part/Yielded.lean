import BucketClient.Proofs.Part.Cut

/-!
# The parts of yielded bytes

A source is unfailing when every read gives some bytes or none (`Source.Unfailing`), and it yields a byte string when
its reads give the string from its start to its end (`Source.Yields`). Unlike one that delivers the string, it may give
more than was asked for, and then a part comes out longer than the part size. What the pulls of such a source come to
is described by `Split.Cuts`: parts that are full, and a last one that is not.

* `Unfailing.part_or_finished`: the pulls of an unfailing source come to parts only.
* `cuts_pulls`: the pulls of a source that yields a string cut this string.
* `Cuts.joined_eq`: put together, the pieces are the string.
* `Cuts.mul_lt_size`: the parts before a part are full, so the number of a part is bounded by the length of the string.
  For a string that is delivered, every number below the bound is the number of a part (`exists_part_mem_cut`).
-/

namespace BucketClient

/-- The source gives these bytes: every read gives some of those that are left, and none only when none are left. -/
def Source.Yields : Source → ByteArray → Prop
  | .exhausted, bytes => bytes = ByteArray.empty
  | .reading reply rest, bytes => ∀ asked, 0 < asked → ∃ block left,
      reply asked = .block block ∧ bytes = block ++ left ∧
      if block.isEmpty then left = ByteArray.empty else (rest asked).Yields left

/-- The source answers every read with a block. -/
def Source.Unfailing : Source → Prop
  | .exhausted => True
  | .reading reply rest => ∀ asked, 0 < asked → ∃ block, reply asked = .block block ∧
      (block.isEmpty = false → (rest asked).Unfailing)

theorem Source.Yields.unfailing {source : Source} {bytes : ByteArray} (h : source.Yields bytes) :
    source.Unfailing := by
  induction source generalizing bytes with
  | exhausted => trivial
  | reading reply rest ih =>
    intro asked ha
    obtain ⟨block, left, hr, -, hl⟩ := h asked ha
    refine ⟨block, hr, fun he => ?_⟩
    rw [he] at hl
    exact ih asked hl

/-- A source yields one byte string at most. -/
theorem Source.Yields.unique {source : Source} {bytes bytes' : ByteArray} (h : source.Yields bytes)
    (h' : source.Yields bytes') : bytes = bytes' := by
  induction source generalizing bytes bytes' with
  | exhausted => exact Eq.trans h (Eq.symm h')
  | reading reply rest ih =>
    obtain ⟨block, left, hr, rfl, hl⟩ := h 1 Nat.one_pos
    obtain ⟨block', left', hr', rfl, hl'⟩ := h' 1 Nat.one_pos
    cases hr.symm.trans hr'
    split at hl
    · rename_i he
      rw [if_pos he] at hl'
      rw [hl, hl']
    · rename_i he
      rw [if_neg he] at hl'
      rw [ih 1 hl hl']

theorem Source.Delivers.yields {source : Source} {bytes : ByteArray} (h : source.Delivers bytes) :
    source.Yields bytes := by
  induction source generalizing bytes with
  | exhausted => exact h
  | reading reply rest ih =>
    intro asked ha
    obtain ⟨block, left, hr, -, hb, hl⟩ := h asked ha
    refine ⟨block, left, hr, hb, ?_⟩
    split
    · rename_i he
      rwa [if_pos he] at hl
    · rename_i he
      rw [if_neg he] at hl
      exact ih asked hl

namespace Split

theorem part_or_finished_of_mem_pullsFrom {size n : Nat} {data : ByteArray} {source : Source} (hd : data.size < size)
    (h : source.Unfailing) {piece : Piece} (hp : piece ∈ (pullsFrom size n data source).map Pull.piece) :
    piece = .finished ∨ ∃ number data, piece = .part number data := by
  have hlast : ∀ {number : Nat} {data : ByteArray}, piece = lastPiece number data →
      piece = .finished ∨ ∃ number data, piece = .part number data := by
    intro number data heq
    rw [lastPiece] at heq
    split at heq
    · exact .inl heq
    · exact .inr ⟨_, _, heq⟩
  induction source generalizing n data with
  | exhausted => exact hlast (List.mem_singleton.1 hp)
  | reading reply rest ih =>
    obtain ⟨block, hr, hrest⟩ := h (size - data.size) (by omega)
    simp only [pullsFrom, hr] at hp
    cases he : block.isEmpty with
    | true =>
      rw [if_pos he] at hp
      exact hlast (List.mem_singleton.1 hp)
    | false =>
      rw [if_neg (Bool.eq_false_iff.1 he)] at hp
      by_cases hf : size ≤ (data ++ block).size
      · rw [if_pos hf] at hp
        rcases List.mem_cons.1 hp with rfl | hp
        · exact .inr ⟨_, _, rfl⟩
        · exact ih _ (by rw [ByteArray.size_empty]; omega) (hrest he) hp
      · rw [if_neg hf, map_piece_readBefore] at hp
        exact ih _ (by omega) (hrest he) hp

/-- The pieces of a byte string that is cut into parts of `size` bytes or more, numbered from `n` on, and a last one
that is shorter. -/
inductive Cuts (size : Nat) : Nat → ByteArray → List Piece → Prop
  /-- A part is cut off that is full. -/
  | part {n : Nat} {data rest : ByteArray} {pieces : List Piece} : size ≤ data.size → Cuts size (n + 1) rest pieces →
      Cuts size n (data ++ rest) (.part n data :: pieces)
  /-- What is left does not fill a part. -/
  | last {n : Nat} {bytes : ByteArray} : bytes.size < size → Cuts size n bytes [lastPiece n bytes]

/-- The pulls of a source that yields the bytes behind `data`, which the part has got so far. -/
theorem cuts_pullsFrom {size n : Nat} {data left : ByteArray} {source : Source} (hd : data.size < size)
    (h : source.Yields left) : Cuts size n (data ++ left) ((pullsFrom size n data source).map Pull.piece) := by
  induction source generalizing n data left with
  | exhausted =>
    rw [show left = ByteArray.empty from h, ByteArray.append_empty]
    exact .last hd
  | reading reply rest ih =>
    obtain ⟨block, left, hr, rfl, hl⟩ := h (size - data.size) (by omega)
    simp only [pullsFrom, hr]
    by_cases he : block.isEmpty = true
    · rw [if_pos he] at hl ⊢
      rw [isEmpty_iff.1 he, hl, ByteArray.append_empty, ByteArray.append_empty]
      exact .last hd
    · rw [if_neg he] at hl ⊢
      rw [← ByteArray.append_assoc]
      by_cases hf : size ≤ (data ++ block).size
      · have hnext : Cuts size (n + 1) left ((pullsFrom size (n + 1) ByteArray.empty
            (rest (size - data.size))).map Pull.piece) := by
          rw [← ByteArray.empty_append (b := left)]
          exact ih _ (by rw [ByteArray.size_empty]; omega) hl
        rw [if_pos hf, List.map_cons]
        exact .part hf hnext
      · rw [if_neg hf, map_piece_readBefore]
        exact ih _ (by omega) hl

section

variable {size n number : Nat} {bytes data : ByteArray} {pieces : List Piece}

/-- The bytes of the last piece are those that were left, also when it is no part. -/
theorem payload_lastPiece (n : Nat) (bytes : ByteArray) : (lastPiece n bytes).payload = bytes := by
  unfold lastPiece
  split
  · rename_i he
    rw [Bool.and_eq_true, isEmpty_iff] at he
    exact he.1.symm
  · rfl

theorem Cuts.joined_eq (h : Cuts size n bytes pieces) : joined (pieces.map Piece.payload) = bytes := by
  induction h with
  | part _ _ ih => exact congrArg _ ih
  | last =>
    rw [List.map_singleton, payload_lastPiece]
    exact ByteArray.append_empty

/-- The parts before a part are full, and the part has some bytes unless it is the first and only one. -/
theorem Cuts.mul_lt_size (h : Cuts size n bytes pieces) (h0 : 0 < size) (hn : 0 < n)
    (hb : 0 < bytes.size ∨ 1 < n) (hp : .part number data ∈ pieces) :
    n ≤ number ∧ (number - n) * size < bytes.size := by
  induction h with
  | @part n part rest pieces hs _ ih =>
    rw [ByteArray.size_append]
    rcases List.mem_cons.1 hp with heq | hp
    · cases heq
      rw [Nat.sub_self, Nat.zero_mul]
      omega
    · obtain ⟨hle, hlt⟩ := ih (by omega) (.inr (by omega)) hp
      have hsucc : number - n = (number - (n + 1)) + 1 := by omega
      rw [hsucc, Nat.succ_mul]
      omega
  | @last n bytes hlt =>
    rw [List.mem_singleton, lastPiece] at hp
    split at hp
    · cases hp
    · rename_i he
      cases hp
      rw [Bool.and_eq_true, isEmpty_iff, decide_eq_true_eq, ← ByteArray.size_eq_zero_iff] at he
      rw [Nat.sub_self, Nat.zero_mul]
      omega

/-- A string that is cut exactly every `size` bytes has every part that could have some bytes. -/
theorem exists_part_mem_cut (h0 : 0 < size) (hn : n ≤ number) (hb : (number - n) * size < bytes.size) :
    ∃ data, .part number data ∈ cut size n bytes := by
  induction n, bytes using cut.induct size with
  | case1 n bytes hs ih =>
    rw [cut, if_pos hs]
    by_cases heq : number = n
    · exact ⟨_, by rw [heq]; exact List.mem_cons_self⟩
    · have hsucc : number - n = (number - (n + 1)) + 1 := by omega
      rw [hsucc, Nat.succ_mul] at hb
      have hrest : (bytes.extract size bytes.size).size = bytes.size - size := by
        rw [ByteArray.size_extract, Nat.min_self]
      obtain ⟨data, hm⟩ := ih (by omega) (by rw [hrest]; omega)
      exact ⟨data, List.mem_cons_of_mem _ hm⟩
  | case2 n bytes hs =>
    -- what is left fills no part, so it is the part asked for
    have heq : number = n := by
      refine Nat.le_antisymm (Nat.not_lt.1 fun hlt => ?_) hn
      have hle : 1 * size ≤ (number - n) * size := Nat.mul_le_mul_right size (by omega)
      omega
    subst heq
    rw [Nat.sub_self, Nat.zero_mul] at hb
    have hne : bytes.isEmpty = false := by
      rw [Bool.eq_false_iff, Ne, isEmpty_iff, ← ByteArray.size_eq_zero_iff]
      omega
    rw [cut, if_neg hs, lastPiece, hne]
    exact ⟨bytes, List.mem_singleton_self _⟩

end

end Split

theorem Source.Unfailing.part_or_finished {size : Nat} {source : Source} (h0 : 0 < size) (h : source.Unfailing)
    {piece : Piece} (hp : piece ∈ (source.pulls size).map Pull.piece) :
    piece = .finished ∨ ∃ number data, piece = .part number data :=
  Split.part_or_finished_of_mem_pullsFrom h0 h hp

theorem Source.cuts_pulls {size : Nat} {source : Source} {bytes : ByteArray} (h0 : 0 < size)
    (h : source.Yields bytes) : Split.Cuts size 1 bytes ((source.pulls size).map Pull.piece) := by
  rw [← ByteArray.empty_append (b := bytes)]
  exact Split.cuts_pullsFrom h0 h

end BucketClient
