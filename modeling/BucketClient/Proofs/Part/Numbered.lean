import BucketClient.Part.Split

/-!
# The order of the pulls of a source

* `Split.Numbered`: pulls whose parts are numbered in turn, and which end after the last part, or with one piece that is
  no part. The pulls of a source have this shape (`numbered_pulls`), and there is at least one part or a failure.
* `Source.replies`: what the source answers to reads of given sizes. There is an interrupt among the answers to the
  reads of the pulls that were asked for iff one of these pulls came to an interrupt (`replies_uninterrupted_iff`).
-/

namespace BucketClient

/-! ## Numbered pulls -/

namespace Split

/-- The pulls are parts with the numbers from `n` on, and end after a part that is not the first of all, or with a piece
that is no part: the end of the data, a failed read, or an interrupt. -/
inductive Numbered : Nat → List Pull → Prop
  | nil {n : Nat} : 1 < n → Numbered n []
  | part {n : Nat} {reads : List Nat} {data : ByteArray} {rest : List Pull} :
      Numbered (n + 1) rest → Numbered n (⟨reads, .part n data⟩ :: rest)
  | finished {n : Nat} {reads : List Nat} : 1 < n → Numbered n [⟨reads, .finished⟩]
  | unreadable {n : Nat} {reads : List Nat} {cause : Failure} : cause.isInterrupt = false →
      Numbered n [⟨reads, .unreadable n (.unreadablePart n cause)⟩]
  | interrupted {n : Nat} {reads : List Nat} {e : Failure} : e.isInterrupt = true →
      Numbered n [⟨reads, .interrupted e⟩]

theorem numbered_lastPiece {n : Nat} (hn : 0 < n) (reads : List Nat) (data : ByteArray) :
    Numbered n [⟨reads, lastPiece n data⟩] := by
  unfold lastPiece
  split
  · rename_i h
    simp only [Bool.and_eq_true, decide_eq_true_eq] at h
    exact .finished h.2
  · exact .part (.nil (by omega))

theorem numbered_failedPiece (n : Nat) (reads : List Nat) (e : Failure) :
    Numbered n [⟨reads, failedPiece n e⟩] := by
  unfold failedPiece
  cases h : e.isInterrupt with
  | true => exact .interrupted h
  | false => exact .unreadable h

theorem Numbered.readBefore {n : Nat} {pulls : List Pull} (h : Numbered n pulls) (asked : Nat) :
    Numbered n (readBefore asked pulls) := by
  cases h with
  | nil hn => exact .nil hn
  | part h => exact .part h
  | finished hn => exact .finished hn
  | unreadable hc => exact .unreadable hc
  | interrupted he => exact .interrupted he

theorem numbered_pullsFrom (size : Nat) {n : Nat} (hn : 0 < n) (data : ByteArray) (source : Source) :
    Numbered n (pullsFrom size n data source) := by
  induction source generalizing n data with
  | exhausted => exact numbered_lastPiece hn _ data
  | reading reply rest ih =>
    rw [pullsFrom]
    cases reply (size - data.size) with
    | failed e => exact numbered_failedPiece n _ e
    | block block =>
      dsimp only
      split
      · exact numbered_lastPiece hn _ data
      · split
        · exact .part (ih _ (by omega) _)
        · exact (ih _ hn _).readBefore _

end Split

theorem Source.numbered_pulls (size : Nat) (source : Source) : Split.Numbered 1 (source.pulls size) :=
  Split.numbered_pullsFrom size Nat.one_pos ByteArray.empty source

/-! ## The answers to the reads -/

/-- What the source answers to reads of these sizes, made one after the other. -/
def Source.replies : Source → List Nat → List Reply
  | _, [] => []
  | .exhausted, _ :: rest => .block ByteArray.empty :: Source.exhausted.replies rest
  | .reading reply rest, asked :: others => reply asked :: (rest asked).replies others

namespace Split

theorem lastPiece_ne_interrupted (n : Nat) (data : ByteArray) (e : Failure) :
    Piece.interrupted e ≠ lastPiece n data := by
  unfold lastPiece
  split <;> simp

theorem interrupted_eq_failedPiece_iff {n : Nat} {e error : Failure} (he : e.isInterrupt = true) :
    Piece.interrupted e = failedPiece n error ↔ e = error := by
  unfold failedPiece
  split
  · exact Piece.interrupted.injEq e error ▸ Iff.rfl
  · rename_i h
    refine ⟨fun h' => by simp at h', ?_⟩
    rintro rfl
    exact absurd he h

/-- The first of a reader's pulls are the first pulls before the read, with the read added. -/
theorem prefix_readBefore {asked : Nat} {pulls first : List Pull} (h : first <+: readBefore asked pulls) :
    first = [] ∨ ∃ first', first' ≠ [] ∧ first' <+: pulls ∧ first = readBefore asked first' := by
  cases pulls with
  | nil => exact .inl (List.prefix_nil.1 h)
  | cons pull rest =>
    rcases List.prefix_cons_iff.1 h with rfl | ⟨more, rfl, hm⟩
    · exact .inl rfl
    · exact .inr ⟨pull :: more, by simp, (List.prefix_cons_inj pull).2 hm, rfl⟩

theorem flatMap_reads_readBefore {asked : Nat} {pulls : List Pull} (h : pulls ≠ []) :
    (readBefore asked pulls).flatMap Pull.reads = asked :: pulls.flatMap Pull.reads := by
  cases pulls with
  | nil => exact absurd rfl h
  | cons pull rest => rfl

theorem map_piece_readBefore (asked : Nat) (pulls : List Pull) :
    (readBefore asked pulls).map Pull.piece = pulls.map Pull.piece := by
  cases pulls <;> rfl

/-- A part whose filling is made of one read. -/
theorem interrupt_mem_single {reply : Nat → Reply} {rest : Nat → Source} {asked : Nat} {piece : Piece} {e : Failure}
    {first : List Pull} (h : first <+: [⟨[asked], piece⟩])
    (hr : Reply.failed e = reply asked ↔ Piece.interrupted e = piece) :
    Reply.failed e ∈ (Source.reading reply rest).replies (first.flatMap Pull.reads) ↔
      Piece.interrupted e ∈ first.map Pull.piece := by
  rcases List.prefix_cons_iff.1 h with rfl | ⟨more, rfl, hm⟩
  · simp [Source.replies]
  · rw [List.prefix_nil.1 hm]
    simpa [Source.replies] using hr

theorem interrupt_mem_replies_iff {size n : Nat} {data : ByteArray} {source : Source} {first : List Pull}
    (h : first <+: pullsFrom size n data source) {e : Failure} (he : e.isInterrupt = true) :
    Reply.failed e ∈ source.replies (first.flatMap Pull.reads) ↔ Piece.interrupted e ∈ first.map Pull.piece := by
  induction source generalizing n data first with
  | exhausted =>
    rcases List.prefix_cons_iff.1 h with rfl | ⟨more, rfl, hm⟩
    · simp [Source.replies]
    · rw [List.prefix_nil.1 hm]
      simp [Source.replies, lastPiece_ne_interrupted]
  | reading reply rest ih =>
    rw [pullsFrom] at h
    cases hr : reply (size - data.size) with
    | failed error =>
      rw [hr] at h
      refine interrupt_mem_single h ?_
      rw [hr, interrupted_eq_failedPiece_iff he, Reply.failed.injEq]
    | block block =>
      simp only [hr] at h
      split at h
      · refine interrupt_mem_single h ?_
        simp [hr, lastPiece_ne_interrupted]
      · split at h
        · rcases List.prefix_cons_iff.1 h with rfl | ⟨more, rfl, hm⟩
          · simp [Source.replies]
          · simpa [Source.replies, hr] using ih _ hm
        · rcases prefix_readBefore h with rfl | ⟨first, hne, hf, rfl⟩
          · simp [Source.replies]
          · rw [flatMap_reads_readBefore hne, map_piece_readBefore]
            simpa [Source.replies, hr] using ih _ hf

end Split

/-- Whether the reply is an interrupt. -/
def Reply.interrupted : Reply → Bool
  | .failed e => e.isInterrupt
  | .block _ => false

/-- None of the answers to the reads of the first pulls of a source is an interrupt iff none of these pulls came to
one. -/
theorem Source.replies_uninterrupted_iff {size : Nat} {source : Source} {first : List Pull}
    (h : first <+: source.pulls size) :
    (∀ reply ∈ source.replies (first.flatMap Pull.reads), reply.interrupted = false) ↔
      ∀ e, e.isInterrupt = true → Piece.interrupted e ∉ first.map Pull.piece := by
  constructor
  · intro hr e he hm
    have := hr _ ((Split.interrupt_mem_replies_iff h he).2 hm)
    rw [show (Reply.failed e).interrupted = e.isInterrupt from rfl, he] at this
    cases this
  · intro hp reply hr
    cases reply with
    | block data => rfl
    | failed e =>
      cases he : e.isInterrupt with
      | false => exact he
      | true => exact absurd ((Split.interrupt_mem_replies_iff h he).1 hr) (hp e he)

end BucketClient
