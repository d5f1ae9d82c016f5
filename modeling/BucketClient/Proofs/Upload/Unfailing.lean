import BucketClient.Proofs.Part.Yielded
import BucketClient.Proofs.Upload.Course

/-!
# Uploads of unfailing sources

A source that answers every read with a block gives an upload no cause to fail.

* `Breaks.uploaded`: where its session breaks off, it is the service that has failed the upload of a part.
* `Course.ok_or_failed`: its upload succeeds, or the service has failed a request.
-/

namespace BucketClient.Upload

variable {bucket key : String} {contentType : Option String} {source : Source} {ending : Ending} {a : Account}

/-- A session breaks off behind the stored parts, in the next part of the source, whose upload the service failed. -/
theorem Breaks.uploaded {session : UploadSession} {size : Nat} {taken : List Part} {reads : List Nat}
    {xs : List Exchange} {e : Failure} (h : Breaks bucket key session 1 (source.pulls size) taken ending reads xs e)
    (h0 : 0 < size) (hs : source.Unfailing) :
    ∃ (number : Nat) (data : ByteArray) (f : Failure), number = 1 + taken.length ∧
      Part.pieces 1 taken ++ [.part number data] <+: (source.pulls size).map Pull.piece ∧
      ((f.isInterrupt = false ∧ ∃ outcome,
          xs = [⟨.uploadPart bucket key session.uploadId number (some data.size) data, .error f⟩,
            abortion session outcome] ∧
          e = failureAfter outcome (.incompleteUpload bucket key session.uploadId (some number) f)) ∨
        f.isInterrupt = true ∧ e = f ∧
          xs = [⟨.uploadPart bucket key session.uploadId number (some data.size) data, .error f⟩]) := by
  have hlast : ∀ {asked : List Pull} {last : Piece}, asked <+: source.pulls size →
      asked.map Pull.piece = Part.pieces 1 taken ++ [last] →
        last = .finished ∨ ∃ number data, last = .part number data := by
    intro asked last hp hm
    exact hs.part_or_finished h0 ((hp.map Pull.piece).subset (by rw [hm]; simp))
  cases h with
  | @refused asked number data f outcome hp hm hn hf =>
    exact ⟨number, data, f, hn, hm ▸ hp.map Pull.piece, .inl ⟨hf, outcome, rfl, rfl⟩⟩
  | @refusedByInterrupt asked number data _ hp hm hn hf =>
    exact ⟨number, data, e, hn, hm ▸ hp.map Pull.piece, .inr ⟨hf, rfl, rfl⟩⟩
  | unreadable hp hm => rcases hlast hp hm with h | ⟨_, _, h⟩ <;> cases h
  | unreadByInterrupt hp hm => rcases hlast hp hm with h | ⟨_, _, h⟩ <;> cases h

/-- The upload of an unfailing source succeeds, or the service has failed one of its requests. -/
theorem Course.ok_or_failed {partSize : Int} (h : Course bucket key contentType partSize source ending a)
    (h0 : 0 < partSize) (hs : source.Unfailing) : (∃ tag, a.result = .ok tag) ∨
      ∃ e, (⟨.initUpload bucket key contentType, .error e⟩ : Exchange) ∈ a.exchanges ∨
        (∃ id number data, (⟨.uploadPart bucket key id number (some data.size) data, .error e⟩ : Exchange) ∈
          a.exchanges) ∨
        ∃ id parts, (⟨.completeUpload bucket key id parts, .error e⟩ : Exchange) ∈ a.exchanges := by
  have hbehind : ∀ {init x : Exchange} {parts more : List Exchange}, x ∈ init :: (parts ++ x :: more) :=
    List.mem_cons_of_mem _ (List.mem_append_right _ List.mem_cons_self)
  cases h with
  | notOpened => exact .inr ⟨_, .inl List.mem_cons_self⟩
  | unsplit hle => omega
  | broken _ hb =>
    obtain ⟨number, data, f, -, -, ⟨-, outcome, rfl, -⟩ | ⟨-, -, rfl⟩⟩ := hb.uploaded (by omega) hs
    · exact .inr ⟨f, .inr (.inl ⟨_, number, data, hbehind⟩)⟩
    · exact .inr ⟨f, .inr (.inl ⟨_, number, data, hbehind⟩)⟩
  | closed _ _ _ hc =>
    cases hc with
    | completed => exact .inl ⟨_, rfl⟩
    | notCompleted => exact .inr ⟨_, .inr (.inr ⟨_, _, hbehind⟩)⟩
    | interrupted => exact .inr ⟨_, .inr (.inr ⟨_, _, hbehind⟩)⟩

end BucketClient.Upload
