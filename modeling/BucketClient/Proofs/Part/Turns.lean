import BucketClient.Proofs.Part.Yielded

/-!
# The turns of a split

A read and the reply to it are a turn (`Turn`). What a split reads is told by two relations, whatever the source is.

* `Split.Fills`: the turns in which a part is filled. Each asks for what the part still misses and gives some bytes, up
  to the turn with which the part is full, or to the one in which the data ends or the read fails.
* `Split.Splits`: the pulls of a source, part after part, up to the one in which it stops. The pulls of every source
  are such pulls (`exists_splits_pulls`).

So the turns of a split are those that give bytes, and a last one that gives none (`Splits.turns_eq`). The first pulls
depend on the first replies only (`take_pulls_of_agrees`).
-/

namespace BucketClient

/-- A read: the number of bytes asked for, and the reply. -/
structure Turn where
  asked : Nat
  reply : Reply

/-- The bytes that a turn gives; a read that fails gives none. -/
def Turn.bytes (turn : Turn) : ByteArray :=
  match turn.reply with
  | .block data => data
  | .failed _ => ByteArray.empty

/-- The bytes that turns give, one after the other. -/
def gathered (turns : List Turn) : ByteArray :=
  joined (turns.map Turn.bytes)

theorem joined_append (xs ys : List ByteArray) : joined (xs ++ ys) = joined xs ++ joined ys := by
  induction xs with
  | nil => exact ByteArray.empty_append.symm
  | cons x xs ih => rw [List.cons_append, joined, ih, joined, ByteArray.append_assoc]

@[simp] theorem gathered_nil : gathered [] = ByteArray.empty := rfl

theorem gathered_cons (turn : Turn) (turns : List Turn) : gathered (turn :: turns) = turn.bytes ++ gathered turns := rfl

theorem gathered_append (xs ys : List Turn) : gathered (xs ++ ys) = gathered xs ++ gathered ys := by
  rw [gathered, List.map_append, joined_append, gathered, gathered]

theorem gathered_singleton (turn : Turn) : gathered [turn] = turn.bytes :=
  ByteArray.append_empty

namespace Source

/-- The turns of a source that is read with these sizes. -/
def turns (source : Source) (sizes : List Nat) : List Turn :=
  List.zipWith Turn.mk sizes (source.replies sizes)

/-- What is left of a source that has been read with these sizes. -/
def after : Source → List Nat → Source
  | source, [] => source
  | .exhausted, _ :: _ => .exhausted
  | .reading _ rest, asked :: others => (rest asked).after others

@[simp] theorem after_nil (source : Source) : source.after [] = source := by
  cases source <;> rfl

theorem after_reading (reply : Nat → Reply) (rest : Nat → Source) (asked : Nat) (others : List Nat) :
    (reading reply rest).after (asked :: others) = (rest asked).after others := rfl

theorem after_exhausted (sizes : List Nat) : exhausted.after sizes = exhausted := by
  cases sizes <;> rfl

@[simp] theorem turns_nil (source : Source) : source.turns [] = [] := rfl

theorem after_append (source : Source) (xs ys : List Nat) :
    source.after (xs ++ ys) = (source.after xs).after ys := by
  induction xs generalizing source with
  | nil => simp
  | cons asked xs ih =>
    cases source with
    | exhausted => simp only [after_exhausted]
    | reading reply rest => exact ih (rest asked)

theorem turns_append (source : Source) (xs ys : List Nat) :
    source.turns (xs ++ ys) = source.turns xs ++ (source.after xs).turns ys := by
  induction xs generalizing source with
  | nil => simp
  | cons asked xs ih =>
    cases source with
    | exhausted =>
      have h := ih exhausted
      rw [after_exhausted] at h ⊢
      exact congrArg (Turn.mk asked (.block ByteArray.empty) :: ·) h
    | reading reply rest => exact congrArg (Turn.mk asked (reply asked) :: ·) (ih (rest asked))

end Source

namespace Split

/-! ## Filling a part -/

/-- The last reply of a split: none of the bytes that it asked for, or a failure. -/
def closing : Option Failure → Reply
  | none => .block ByteArray.empty
  | some e => .failed e

@[simp] theorem bytes_closing (asked : Nat) (ending : Option Failure) :
    Turn.bytes ⟨asked, closing ending⟩ = ByteArray.empty := by
  cases ending <;> rfl

/-- What the filling of a part comes to: the part is full, or the source has stopped when the part had got some data. -/
inductive Filling where
  | full (data : ByteArray)
  | stopped (ending : Option Failure) (data : ByteArray)

/-- The data that a part has got when its filling is over. -/
def Filling.data : Filling → ByteArray
  | .full data | .stopped _ data => data

/-- The turns in which a part of `size` bytes is filled that has got `data` so far. -/
inductive Fills (size : Nat) : ByteArray → List Turn → Filling → Prop
  /-- The block that is given makes the part full. -/
  | full {data block : ByteArray} : block ≠ ByteArray.empty → size ≤ (data ++ block).size →
      Fills size data [⟨size - data.size, .block block⟩] (.full (data ++ block))
  /-- The data has ended, or the read fails. -/
  | stopped {data : ByteArray} {ending : Option Failure} :
      Fills size data [⟨size - data.size, closing ending⟩] (.stopped ending data)
  /-- The block that is given does not make the part full. -/
  | more {data block : ByteArray} {turns : List Turn} {filling : Filling} : block ≠ ByteArray.empty →
      (data ++ block).size < size → Fills size (data ++ block) turns filling →
      Fills size data (⟨size - data.size, .block block⟩ :: turns) filling

section

variable {size : Nat} {data : ByteArray} {turns : List Turn} {filling : Filling}

theorem size_pos_of_ne {block : ByteArray} (h : block ≠ ByteArray.empty) : 0 < block.size :=
  Nat.pos_of_ne_zero fun h0 => h (ByteArray.size_eq_zero_iff.1 h0)

/-- What a part gets is what the turns give. -/
theorem Fills.data_eq (h : Fills size data turns filling) : filling.data = data ++ gathered turns := by
  induction h with
  | full => rw [gathered_singleton]; rfl
  | stopped => rw [gathered_singleton, bytes_closing, ByteArray.append_empty]; rfl
  | more _ _ _ ih => rw [ih, gathered_cons, ByteArray.append_assoc]; rfl

/-- Each turn asks for what the part still misses. -/
theorem Fills.asked_add (h : Fills size data turns filling) (hd : data.size < size) {before behind : List Turn}
    {turn : Turn} (ht : turns = before ++ turn :: behind) :
    turn.asked + (data ++ gathered before).size = size ∧ 0 < turn.asked := by
  have hfirst : ∀ {data : ByteArray}, data.size < size →
      size - data.size + (data ++ gathered []).size = size ∧ 0 < size - data.size := by
    intro data hd
    rw [gathered_nil, ByteArray.append_empty]
    omega
  induction h generalizing before with
  | full | stopped =>
    cases before with
    | nil =>
      cases ht
      exact hfirst hd
    | cons first before => simp at ht
  | more _ hlt _ ih =>
    cases before with
    | nil =>
      cases ht
      exact hfirst hd
    | cons first before =>
      cases ht
      have h := ih hlt rfl
      rwa [ByteArray.append_assoc] at h

/-- A part takes no more turns than it misses bytes. -/
theorem Fills.length_add_le (h : Fills size data turns filling) (hd : data.size < size) :
    turns.length + data.size ≤ size := by
  induction h with
  | full | stopped =>
    rw [List.length_singleton]
    omega
  | more hb hlt _ ih =>
    have hlength := ih hlt
    have hpos := size_pos_of_ne hb
    rw [ByteArray.size_append] at hlength
    rw [List.length_cons]
    omega

/-- A part that is full has all the bytes that it is to have, and no others if no turn gives more than it asks for. -/
theorem Fills.size_of_full {filled : ByteArray} (h : Fills size data turns (.full filled)) (hd : data.size < size) :
    size ≤ filled.size ∧ ((∀ turn ∈ turns, turn.bytes.size ≤ turn.asked) → filled.size = size) := by
  generalize hf : Filling.full filled = filling at h
  induction h with
  | @full data block _ hle =>
    cases hf
    refine ⟨hle, fun hm => ?_⟩
    have hb : block.size ≤ size - data.size := hm _ List.mem_cons_self
    rw [ByteArray.size_append] at hle ⊢
    omega
  | stopped => cases hf
  | more _ hlt _ ih =>
    obtain ⟨hle, heq⟩ := ih hlt hf
    exact ⟨hle, fun hm => heq fun turn ht => hm turn (List.mem_cons_of_mem _ ht)⟩

/-- A part in which the source stops is not full. -/
theorem Fills.size_of_stopped {ending : Option Failure} {left : ByteArray}
    (h : Fills size data turns (.stopped ending left)) (hd : data.size < size) : left.size < size := by
  generalize hf : Filling.stopped ending left = filling at h
  induction h with
  | full => cases hf
  | stopped =>
    cases hf
    exact hd
  | more _ hlt _ ih => exact ih hlt hf

/-- Every turn of a part that is full gives some bytes. -/
theorem Fills.bytes_ne {filled : ByteArray} (h : Fills size data turns (.full filled)) :
    ∀ turn ∈ turns, turn.bytes ≠ ByteArray.empty := by
  generalize hf : Filling.full filled = filling at h
  induction h with
  | full hb => exact List.forall_mem_singleton.2 hb
  | stopped => cases hf
  | more hb _ _ ih => exact List.forall_mem_cons.2 ⟨hb, ih hf⟩

/-- Every turn but the last one of a part in which the source stops gives some bytes. -/
theorem Fills.turns_eq {ending : Option Failure} {left : ByteArray} (h : Fills size data turns (.stopped ending left)) :
    ∃ giving asked, turns = giving ++ [⟨asked, closing ending⟩] ∧ ∀ turn ∈ giving, turn.bytes ≠ ByteArray.empty := by
  generalize hf : Filling.stopped ending left = filling at h
  induction h with
  | full => cases hf
  | stopped =>
    cases hf
    exact ⟨[], _, rfl, List.forall_mem_nil _⟩
  | more hb _ _ ih =>
    obtain ⟨giving, asked, rfl, hg⟩ := ih hf
    exact ⟨_ :: giving, asked, rfl, List.forall_mem_cons.2 ⟨hb, hg⟩⟩

end

/-! ## Part after part -/

/-- What comes of the part in which the source stops. -/
def stoppedPiece : Option Failure → Nat → ByteArray → Piece
  | none, number, data => lastPiece number data
  | some e, number, _ => failedPiece number e

/-- The pulls of a source for parts of `size` bytes, numbered from `n` on, when the first part has got `data` so far,
and the failure with which the source stops, if it stops with one. -/
inductive Splits (size : Nat) : Nat → ByteArray → Source → List Pull → Option Failure → Prop
  /-- A part is full. -/
  | part {n : Nat} {data filled : ByteArray} {source : Source} {reads : List Nat} {rest : List Pull}
      {ending : Option Failure} : Fills size data (source.turns reads) (.full filled) →
      Splits size (n + 1) ByteArray.empty (source.after reads) rest ending →
      Splits size n data source (⟨reads, .part n filled⟩ :: rest) ending
  /-- The source stops. -/
  | stop {n : Nat} {data left : ByteArray} {source : Source} {reads : List Nat} {ending : Option Failure} :
      Fills size data (source.turns reads) (.stopped ending left) →
      Splits size n data source [⟨reads, stoppedPiece ending n left⟩] ending

theorem Splits.readBefore {size n : Nat} {data block : ByteArray} {reply : Nat → Reply} {rest : Nat → Source}
    {pulls : List Pull} {ending : Option Failure} (hr : reply (size - data.size) = .block block)
    (hb : block ≠ ByteArray.empty) (hlt : (data ++ block).size < size)
    (h : Splits size n (data ++ block) (rest (size - data.size)) pulls ending) :
    Splits size n data (.reading reply rest) (readBefore (size - data.size) pulls) ending := by
  have hturns : ∀ {reads : List Nat} {filling : Filling},
      Fills size (data ++ block) ((rest (size - data.size)).turns reads) filling →
        Fills size data ((Source.reading reply rest).turns ((size - data.size) :: reads)) filling := by
    intro reads filling h
    have h := Fills.more hb hlt h
    rwa [← hr] at h
  cases h with
  | part hf hs => exact .part (hturns hf) hs
  | stop hf => exact .stop (hturns hf)

theorem exists_splits_pullsFrom {size n : Nat} {data : ByteArray} (hd : data.size < size) (source : Source) :
    ∃ ending, Splits size n data source (pullsFrom size n data source) ending := by
  induction source generalizing n data with
  | exhausted =>
    have h : Fills size data [⟨size - data.size, closing none⟩] (.stopped none data) := .stopped
    have h : Fills size data (Source.exhausted.turns [size - data.size]) (.stopped none data) := h
    exact ⟨none, .stop h⟩
  | reading reply rest ih =>
    have hstop : ∀ ending, reply (size - data.size) = closing ending →
        Splits size n data (.reading reply rest) [⟨[size - data.size], stoppedPiece ending n data⟩] ending := by
      intro ending hr
      have h : Fills size data ((Source.reading reply rest).turns [size - data.size]) (.stopped ending data) := by
        have h : Fills size data [⟨size - data.size, closing ending⟩] (.stopped ending data) := .stopped
        rwa [← hr] at h
      exact .stop h
    rw [pullsFrom]
    cases hr : reply (size - data.size) with
    | failed e => exact ⟨some e, hstop (some e) hr⟩
    | block block =>
      dsimp only
      by_cases he : block.isEmpty = true
      · rw [if_pos he]
        rw [isEmpty_iff.1 he] at hr
        exact ⟨none, hstop none hr⟩
      · rw [if_neg he]
        have hb : block ≠ ByteArray.empty := fun h => he (isEmpty_iff.2 h)
        by_cases hf : size ≤ (data ++ block).size
        · rw [if_pos hf]
          have hfull : Fills size data ((Source.reading reply rest).turns [size - data.size])
              (.full (data ++ block)) := by
            have h := Fills.full hb hf
            rwa [← hr] at h
          have hnext : ByteArray.empty.size < size := by
            rw [ByteArray.size_empty]
            omega
          obtain ⟨ending, hs⟩ := ih (size - data.size) (n := n + 1) hnext
          refine ⟨ending, .part hfull ?_⟩
          rwa [Source.after_reading, Source.after_nil]
        · rw [if_neg hf]
          obtain ⟨ending, hs⟩ := ih (size - data.size) (Nat.not_le.1 hf)
          exact ⟨ending, hs.readBefore hr hb (Nat.not_le.1 hf)⟩

/-- The pulls of a source. -/
theorem exists_splits_pulls {size : Nat} (h0 : 0 < size) (source : Source) :
    ∃ ending, Splits size 1 ByteArray.empty source (source.pulls size) ending :=
  exists_splits_pullsFrom h0 source

section

variable {size n : Nat} {data : ByteArray} {source : Source} {pulls : List Pull} {ending : Option Failure}

/-- **The turns of a split** give bytes, up to the last one, in which the source stops. -/
theorem Splits.turns_eq (h : Splits size n data source pulls ending) :
    ∃ giving asked, source.turns (pulls.flatMap Pull.reads) = giving ++ [⟨asked, closing ending⟩] ∧
      ∀ turn ∈ giving, turn.bytes ≠ ByteArray.empty := by
  induction h with
  | @part n data filled source reads rest ending hf _ ih =>
    obtain ⟨giving, asked, heq, hg⟩ := ih
    refine ⟨source.turns reads ++ giving, asked, ?_, List.forall_mem_append.2 ⟨hf.bytes_ne, hg⟩⟩
    rw [List.flatMap_cons, Source.turns_append, heq, List.append_assoc]
  | stop hf =>
    rw [List.flatMap_singleton]
    exact hf.turns_eq

/-- A split that stops with a failure comes to the piece of it. -/
theorem Splits.exists_failedPiece {e : Failure} (h : Splits size n data source pulls (some e)) :
    ∃ number, failedPiece number e ∈ pulls.map Pull.piece := by
  generalize he : some e = ending at h
  induction h with
  | part _ _ ih =>
    obtain ⟨number, hmem⟩ := ih he
    exact ⟨number, List.mem_cons_of_mem _ hmem⟩
  | stop =>
    cases he
    exact ⟨_, List.mem_singleton_self _⟩

/-- The turns of a pull, behind those of the pulls before it, fill a part from the start. -/
theorem Splits.exists_fills {first others : List Pull} {pull : Pull}
    (h : Splits size n ByteArray.empty source (first ++ pull :: others) ending) :
    ∃ filling, Fills size ByteArray.empty ((source.after (first.flatMap Pull.reads)).turns pull.reads) filling := by
  induction first generalizing n source with
  | nil =>
    rw [List.nil_append] at h
    rw [List.flatMap_nil, Source.after_nil]
    cases h with
    | part hf _ => exact ⟨_, hf⟩
    | stop hf => exact ⟨_, hf⟩
  | cons before first ih =>
    rw [List.cons_append] at h
    generalize hrest : first ++ pull :: others = rest at h
    cases h with
    | part _ hs =>
      rw [List.flatMap_cons, Source.after_append]
      exact ih (hrest ▸ hs)
    | stop => simp at hrest

end

end Split

/-- The turns of a source that is split to its end into parts of `size` bytes. -/
def Source.conversation (size : Nat) (source : Source) : List Turn :=
  source.turns ((source.pulls size).flatMap Pull.reads)

/-! ## The first replies -/

namespace Source

/-- The reply to the next read. -/
def reply : Source → Nat → Reply
  | .exhausted, _ => .block ByteArray.empty
  | .reading reply _, asked => reply asked

/-- What is left after the next read. -/
def next : Source → Nat → Source
  | .exhausted, _ => .exhausted
  | .reading _ rest, asked => rest asked

/-- Two sources give the same replies to the first `k` reads, whatever these ask for. -/
def Agrees : Nat → Source → Source → Prop
  | 0, _, _ => True
  | k + 1, source, other =>
    ∀ asked, source.reply asked = other.reply asked ∧ Agrees k (source.next asked) (other.next asked)

end Source

namespace Split

/-- The pulls by the next reply and what is left after it. -/
theorem pullsFrom_eq (size n : Nat) (data : ByteArray) (source : Source) : pullsFrom size n data source =
    match source.reply (size - data.size) with
    | .failed e => [⟨[size - data.size], failedPiece n e⟩]
    | .block block =>
      if block.isEmpty then [⟨[size - data.size], lastPiece n data⟩]
      else if size ≤ (data ++ block).size then
        ⟨[size - data.size], .part n (data ++ block)⟩ ::
          pullsFrom size (n + 1) ByteArray.empty (source.next (size - data.size))
      else readBefore (size - data.size) (pullsFrom size n (data ++ block) (source.next (size - data.size))) := by
  cases source with
  | exhausted =>
    rw [pullsFrom, Source.reply]
    exact (if_pos rfl).symm
  | reading reply rest => rfl

theorem take_readBefore (asked m : Nat) (pulls : List Pull) :
    (readBefore asked pulls).take (m + 1) = readBefore asked (pulls.take (m + 1)) := by
  cases pulls <;> rfl

theorem take_pullsFrom_of_agrees {size k m n : Nat} {data : ByteArray} {source other : Source}
    (h : Source.Agrees k source other) (hd : data.size < size) (hk : m * size ≤ k + data.size) :
    (pullsFrom size n data source).take m = (pullsFrom size n data other).take m := by
  induction k generalizing m n data source other with
  | zero =>
    have hm : m = 0 := by
      refine Nat.eq_zero_of_not_pos fun hm => ?_
      have := Nat.le_mul_of_pos_left size hm
      omega
    rw [hm, List.take_zero, List.take_zero]
  | succ k ih =>
    cases m with
    | zero => rw [List.take_zero, List.take_zero]
    | succ m =>
      obtain ⟨hreply, hnext⟩ := h (size - data.size)
      rw [pullsFrom_eq, pullsFrom_eq size n data other, ← hreply]
      cases source.reply (size - data.size) with
      | failed e => rfl
      | block block =>
        dsimp only
        by_cases he : block.isEmpty = true
        · rw [if_pos he, if_pos he]
        · rw [if_neg he, if_neg he]
          have hb : 0 < block.size := size_pos_of_ne fun h => he (isEmpty_iff.2 h)
          by_cases hf : size ≤ (data ++ block).size
          · -- the next pulls start from the beginning of a part, with one pull less to take
            rw [if_pos hf, if_pos hf, List.take_succ_cons, List.take_succ_cons]
            have hsucc : (m + 1) * size = m * size + size := Nat.succ_mul m size
            rw [ih hnext (by rw [ByteArray.size_empty]; omega) (by omega)]
          · have hsize : (data ++ block).size = data.size + block.size := ByteArray.size_append
            rw [if_neg hf, if_neg hf, take_readBefore, take_readBefore, ih hnext (by omega) (by omega)]

end Split

/-- **The first pulls of a source** depend on its first replies only, so many that each part could be read byte by byte.
So the first parts of a source that never ends are those of any of its beginnings that is long enough. -/
theorem Source.take_pulls_of_agrees {size m : Nat} {source other : Source} (h0 : 0 < size)
    (h : Source.Agrees (m * size) source other) : (source.pulls size).take m = (other.pulls size).take m :=
  Split.take_pullsFrom_of_agrees h h0 (Nat.le_add_right _ _)

end BucketClient
