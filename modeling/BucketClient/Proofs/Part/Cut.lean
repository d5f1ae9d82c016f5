import BucketClient.Proofs.Part.Numbered

/-!
# The parts of delivered bytes

A source delivers a byte string when its reads give the string from its start to its end, each read at most as much as
was asked for (`Source.Delivers`); the source that reads from a byte string does (`delivers_ofBytes`). However the reads
fall, the pulls of such a source come to the same pieces: those of the string itself, cut every so many bytes
(`piece_pulls`).
-/

namespace BucketClient

/-- The source gives these bytes: every read gives some of those that are left, at most as many as are asked for, and
none only when none are left. -/
def Source.Delivers : Source → ByteArray → Prop
  | .exhausted, bytes => bytes = ByteArray.empty
  | .reading reply rest, bytes => ∀ asked, 0 < asked → ∃ block left,
      reply asked = .block block ∧ block.size ≤ asked ∧ bytes = block ++ left ∧
      if block.isEmpty then left = ByteArray.empty else (rest asked).Delivers left

theorem isEmpty_iff {bytes : ByteArray} : bytes.isEmpty = true ↔ bytes = ByteArray.empty := by
  rw [← ByteArray.size_eq_zero_iff]
  exact beq_iff_eq

namespace Source

theorem Manner.grant_le_asked (manner : Manner) (size position asked : Nat) :
    manner.grant size position asked ≤ asked := by
  have hstep : manner.step.elim asked (min asked) ≤ asked := by
    cases manner.step with
    | none => exact Nat.le_refl asked
    | some step => exact Nat.min_le_left asked step
  have hallowed : manner.failing.elim (manner.step.elim asked (min asked))
      (fun f => min (manner.step.elim asked (min asked)) (f.1 - position)) ≤ asked := by
    cases manner.failing with
    | none => exact hstep
    | some f => exact Nat.le_trans (Nat.min_le_left _ _) hstep
  exact Nat.le_trans (Nat.min_le_left _ _) hallowed

/-- A read that may give some bytes gives some, as long as some are left. -/
theorem Manner.grant_pos {manner : Manner} (hs : manner.step ≠ some 0) (hf : manner.failing = none)
    {size position asked : Nat} (ha : 0 < asked) (hp : position < size) : 0 < manner.grant size position asked := by
  unfold Manner.grant
  rw [hf]
  cases h : manner.step with
  | none => simp only [Option.elim]; omega
  | some step =>
    have hstep : step ≠ 0 := fun h0 => hs (by rw [h, h0])
    simp only [Option.elim]
    omega

/-- The source that reads from a byte string without failing delivers what is left of it. -/
theorem delivers_fromPosition {manner : Manner} (hs : manner.step ≠ some 0) (hf : manner.failing = none)
    (bytes : ByteArray) {position : Nat} (hp : position ≤ bytes.size) :
    (fromPosition manner bytes position).Delivers (bytes.extract position bytes.size) := by
  induction hn : bytes.size - position using Nat.strongRecOn generalizing position with
  | ind n ih =>
    have hnone : manner.failure? position = none := by rw [Manner.failure?, hf]; rfl
    rw [fromPosition, hnone]
    intro asked ha
    have hle := manner.grant_le bytes.size position asked
    have hasked := manner.grant_le_asked bytes.size position asked
    have hpos : position < bytes.size → 0 < manner.grant bytes.size position asked := Manner.grant_pos hs hf ha
    refine ⟨bytes.extract position (position + manner.grant bytes.size position asked),
      bytes.extract (position + manner.grant bytes.size position asked) bytes.size, rfl, ?_, ?_, ?_⟩
    · rw [ByteArray.size_extract]
      omega
    · rw [ByteArray.extract_append_extract, Nat.min_eq_left (by omega), Nat.max_eq_right (by omega)]
    · dsimp only
      by_cases hg : 0 < manner.grant bytes.size position asked
      · have hne : ¬(bytes.extract position (position + manner.grant bytes.size position asked)).isEmpty = true := by
          rw [isEmpty_iff, ByteArray.extract_eq_empty_iff]
          omega
        rw [if_neg hne, dif_pos hg]
        exact ih _ (by omega) (by omega) rfl
      · have hleft :
            bytes.extract (position + manner.grant bytes.size position asked) bytes.size = ByteArray.empty := by
          rw [ByteArray.extract_eq_empty_iff]
          omega
        rw [dif_neg hg]
        split
        · exact hleft
        · exact hleft

/-- The source that reads from a byte string without failing delivers it, in blocks of any length. -/
theorem delivers_ofBytes {manner : Manner} (hs : manner.step ≠ some 0) (hf : manner.failing = none)
    (bytes : ByteArray) : (ofBytes bytes manner).Delivers bytes := by
  have h := delivers_fromPosition hs hf bytes (Nat.zero_le bytes.size)
  rwa [ByteArray.extract_zero_size] at h

end Source

/-- Byte strings put together. -/
def joined : List ByteArray → ByteArray
  | [] => ByteArray.empty
  | bytes :: rest => bytes ++ joined rest

/-- The bytes of a part; a piece that is no part has none. -/
def Piece.payload : Piece → ByteArray
  | .part _ data => data
  | .unreadable _ _ | .interrupted _ | .finished => ByteArray.empty

namespace Split

/-- The pieces of a byte string that is cut every `size` bytes, numbered from `n` on. -/
def cut (size n : Nat) (bytes : ByteArray) : List Piece :=
  if 0 < size ∧ size ≤ bytes.size then
    .part n (bytes.extract 0 size) :: cut size (n + 1) (bytes.extract size bytes.size)
  else [lastPiece n bytes]
termination_by bytes.size
decreasing_by
  rw [ByteArray.size_extract]
  omega

theorem cut_of_lt {size n : Nat} {bytes : ByteArray} (h : bytes.size < size) :
    cut size n bytes = [lastPiece n bytes] := by
  rw [cut, if_neg (by omega)]

/-- A whole part is cut off. -/
theorem cut_append {size n : Nat} {part rest : ByteArray} (h0 : 0 < size) (h : part.size = size) :
    cut size n (part ++ rest) = .part n part :: cut size (n + 1) rest := by
  rw [cut, if_pos ⟨h0, by rw [ByteArray.size_append]; omega⟩, ByteArray.extract_append_eq_left h.symm,
    ByteArray.extract_append_eq_right h.symm ByteArray.size_append]

/-- The pulls of a source that delivers the bytes behind `data`, which the part has got so far. -/
theorem piece_pullsFrom {size n : Nat} {data left : ByteArray} {source : Source} (hd : data.size < size)
    (h : source.Delivers left) : (pullsFrom size n data source).map Pull.piece = cut size n (data ++ left) := by
  induction source generalizing n data left with
  | exhausted =>
    rw [show left = ByteArray.empty from h, ByteArray.append_empty, cut_of_lt hd]
    rfl
  | reading reply rest ih =>
    obtain ⟨block, left, hr, hb, rfl, hl⟩ := h (size - data.size) (by omega)
    simp only [pullsFrom, hr]
    by_cases he : block.isEmpty = true
    · rw [if_pos he] at hl ⊢
      rw [isEmpty_iff.1 he, hl, ByteArray.append_empty, ByteArray.append_empty, cut_of_lt hd]
      rfl
    · rw [if_neg he] at hl ⊢
      rw [← ByteArray.append_assoc]
      have hs : (data ++ block).size = data.size + block.size := ByteArray.size_append
      by_cases hf : size ≤ (data ++ block).size
      · -- the reply was no longer than asked for, so the part is exactly full
        rw [if_pos hf, cut_append (by omega) (by omega), List.map_cons, ih _ (by rw [ByteArray.size_empty]; omega) hl,
          ByteArray.empty_append]
      · rw [if_neg hf, map_piece_readBefore, ih _ (by omega) hl]

end Split

/-- **The parts do not depend on how the reads fall.** -/
theorem Source.piece_pulls {size : Nat} {source : Source} {bytes : ByteArray} (h0 : 0 < size)
    (h : source.Delivers bytes) : (source.pulls size).map Pull.piece = Split.cut size 1 bytes := by
  rw [Source.pulls, Split.piece_pullsFrom h0 h, ByteArray.empty_append]

end BucketClient
