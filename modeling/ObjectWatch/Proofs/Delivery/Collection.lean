import ObjectWatch.Delivery.Sink
import ObjectWatch.Proofs.Gzip.Terms
import ObjectWatch.Proofs.Gzip.Exactness

/-!
# Collecting is exact

The sink of a file reads unpacked content to its end before anything is published.  What it collects is
all that the stream yields, and if the stream yields nothing, collecting fails.  The number of pieces
that the sink is ready to read is never the reason why it stops.
-/

namespace ObjectWatch

open Gzip (Stream)

variable {failure : Option Fault} {more : Bytes} {stream : Stream}

theorem Body.close_ends (body : Body) :
    Ends (close body) (fun _ _ => body.closeFault = none) (fun fault _ => body.closeFault = some fault) := by
  unfold close
  cases body.closeFault <;> exact rfl

theorem Gzip.Stream.close_ends (stream : Stream) :
    Ends (close stream) (fun _ _ => stream.body.closeFault = none)
      (fun fault _ => stream.body.closeFault = some fault) := by
  have ends := stream.body.close_ends
  unfold close
  cases closed : stream.body.close with
  | ok _ body => exact ends.of_ok closed
  | error fault body => exact ends.of_error closed

theorem Gzip.Stream.potential_le_outputBound (sound : stream.reader.Sound failure more) :
    stream.potential ≤ stream.outputBound := by
  rcases stream with ⟨⟨source, place⟩, block, closed⟩
  cases place with
  | betweenMembers =>
      simp only [Stream.potential, Stream.outputBound, Gzip.Reader.potential, Deflate.maxMatch]
      omega
  | inMember s =>
      have resting : s.Resting := sound.place
      have held := resting.held
      have due := resting.fits.due_le
      simp only [Stream.potential, Stream.outputBound, Gzip.Reader.potential, Deflate.maxMatch] at due ⊢
      omega

/-! ## Content -/

namespace Content

/-- The terms of the body below the content. -/
def terms (content : Content) : Body := content.body.terms

theorem read_heeds_terms (size : Int) : Heeds terms Body.Admits (read size) := by
  intro content
  cases content with
  | raw body =>
      have ends := (Body.read_heeds_terms (if size < 0 then none else some size.toNat)).weaken
        Body.Allows.admits body
      rw [read]
      cases result : body.read (if size < 0 then none else some size.toNat) <;>
        (rw [result] at ends; exact ends)
  | unpacked stream =>
      have ends := Gzip.Stream.read_heeds_terms size stream
      rw [read]
      cases result : stream.read size <;> (rw [result] at ends; exact ends)

theorem within_ends {σ α : Type} {rebuild : σ -> Content} {result : EStateM.Result Fault σ α}
    {good : α -> σ -> Prop} {bad : Fault -> σ -> Prop} (ends : Ends result good bad) :
    Ends (within rebuild result) (fun value after => exists part, after = rebuild part ∧ good value part)
      (fun error after => exists part, after = rebuild part ∧ bad error part) := by
  cases result with
  | ok value part => exact ⟨part, rfl, ends⟩
  | error error part => exact ⟨part, rfl, ends⟩

/-- Closing fails as the terms say. -/
theorem close_ends (content : Content) :
    Ends (close content) (fun _ _ => content.terms.closeFault = none)
      (fun fault _ => content.terms.closeFault = some fault) := by
  cases content with
  | raw body =>
      refine (within_ends ?_).mono (fun _ _ ⟨_, _, closes⟩ => closes) fun _ _ ⟨_, _, fails⟩ => fails
      exact body.close_ends
  | unpacked stream =>
      refine (within_ends ?_).mono (fun _ _ ⟨_, _, closes⟩ => closes) fun _ _ ⟨_, _, fails⟩ => fails
      exact stream.close_ends

end Content

namespace Transfer

variable {α β : Type}

/-- The terms of the body below the content. -/
def terms (transfer : Transfer α) : Body := transfer.content.terms

theorem onContent_leaves_terms {act : Attempt Content β} (leaves : Leaves Content.terms act) :
    Leaves terms (onContent act : Attempt (Transfer α) β) := by
  intro transfer
  have same := leaves transfer.content
  unfold onContent
  cases result : act transfer.content <;> (rw [result] at same; exact same)

theorem onPlace_leaves_terms (act : α -> Except Fault (β × α)) : Leaves terms (onPlace act) := by
  intro transfer
  unfold onPlace
  cases act transfer.place <;> rfl

theorem copyPieces_leaves_terms (accept : Bytes -> α -> Except Fault α) (rounds size : Nat) :
    Leaves terms (copyPieces accept rounds size) := by
  induction rounds generalizing size with
  | zero => exact .pure _
  | succ rounds inductionHypothesis =>
      refine Leaves.bind (onContent_leaves_terms (Content.read_heeds_terms _).leaves) fun piece => ?_
      refine Leaves.ite (.pure _) (Leaves.bind (onPlace_leaves_terms _) fun _ => ?_)
      exact inductionHypothesis _

/-- What handing pieces over does not change in a place, copying does not change either. -/
theorem copyPieces_leaves_place {γ : Type} {view : α -> γ} (accept : Bytes -> α -> Except Fault α)
    (keeps : forall {piece place after}, accept piece place = .ok after -> view after = view place)
    (rounds size : Nat) :
    Leaves (fun transfer : Transfer α => view transfer.place) (copyPieces accept rounds size) := by
  have reads : Leaves (fun transfer : Transfer α => view transfer.place)
      (onContent (Content.read pieceSize)) := by
    intro transfer
    unfold onContent
    cases transfer.content.read pieceSize <;> rfl
  have hands : forall piece : Bytes, Leaves (fun transfer : Transfer α => view transfer.place)
      (onPlace fun place => (accept piece place).map ((), ·)) := by
    intro piece transfer
    unfold onPlace
    dsimp only
    cases handed : accept piece transfer.place with
    | error fault => rfl
    | ok after => exact keeps handed
  induction rounds generalizing size with
  | zero => exact .pure _
  | succ rounds inductionHypothesis =>
      refine reads.bind fun piece => Leaves.ite (.pure _) ((hands piece).bind fun _ => ?_)
      exact inductionHypothesis _

/-- Closing after a failure tells the failure, or that the content refuses to be closed. -/
theorem closing_of_error {act : Attempt (Transfer α) β} {transfer after : Transfer α} {fault : Fault}
    (failed : act transfer = .error fault after) :
    exists told closed, closing act transfer = .error told closed ∧ closed.place = after.place ∧
      (told = fault ∨ after.terms.closeFault = some told) := by
  have closes := Content.close_ends after.content
  unfold closing
  rw [failed]
  dsimp only
  rw [seqRight_apply, onContent]
  cases closed : Content.close after.content with
  | ok _ content => exact ⟨fault, { after with content }, rfl, rfl, .inl rfl⟩
  | error refusal content =>
      exact ⟨refusal, { after with content }, rfl, rfl, .inr (closes.of_error closed)⟩

end Transfer

namespace Sink

open Gzip.Stream (joined joined_cons)

/-- Pieces are gathered in front of one another. -/
def gather (piece : Bytes) (pieces : List Bytes) : Except Fault (List Bytes) := .ok (piece :: pieces)

theorem read_unpacked_ends {place : List Bytes} {good : Bytes -> Stream -> Prop}
    {bad : Fault -> Stream -> Prop} {size : Int} (ends : Ends (stream.read size) good bad) :
    Ends (Transfer.onContent (Content.read size) ⟨.unpacked stream, place⟩)
      (fun piece after => exists stream, after = ⟨.unpacked stream, place⟩ ∧ good piece stream)
      (fun error after => exists stream, after = ⟨.unpacked stream, place⟩ ∧ bad error stream) := by
  have unfolded : Content.read size (.unpacked stream) = Content.within .unpacked (stream.read size) :=
    rfl
  unfold Transfer.onContent
  dsimp only
  rw [unfolded]
  cases result : stream.read size with
  | ok piece after => exact Exists.intro after ⟨rfl, ends.of_ok result⟩
  | error error after => exact Exists.intro after ⟨rfl, ends.of_error result⟩

/-- Every piece is one that the stream gives, and the last one is followed by the end.  The potential
bounds the number of the pieces. -/
theorem copyPieces_ends (rounds size : Nat) (pieces : List Bytes) (opened : stream.closed = false)
    (sound : stream.reader.Sound failure more) (enough : stream.potential < rounds) :
    Ends (Transfer.copyPieces gather rounds size ⟨.unpacked stream, pieces⟩)
      (fun _ after => exists rest, joined after.place = joined pieces ++ rest ∧
        forall content, stream.Yields more content ↔ content = rest)
      (fun error _ => stream.Refuses failure more error) := by
  induction rounds generalizing size pieces stream with
  | zero => exact absurd enough (Nat.not_lt_zero _)
  | succ rounds inductionHypothesis =>
      have positive : 0 < Transfer.pieceSize := by decide
      have reads := Gzip.Stream.readUpTo_ends positive opened sound
      rw [← Gzip.Stream.read_of_positive positive opened] at reads
      refine Ends.bind ((read_unpacked_ends reads).mono ?_ ?_)
      · rintro piece _ ⟨middle, rfl, gives, ended⟩
        by_cases nothing : piece = []
        · subst nothing
          exact ⟨[], (List.append_nil _).symm, ended rfl⟩
        · have nonempty : piece.isEmpty = false := List.isEmpty_eq_false_iff.mpr nothing
          have used := gives.potential
          have positivePiece := List.length_pos_iff.mpr nothing
          simp only [nonempty, Bool.false_eq_true, if_false]
          refine (inductionHypothesis (size + piece.length) (piece :: pieces) gives.opened gives.sound
            (by omega)).mono ?_ fun _ _ refuses => gives.refuses refuses
          rintro _ after ⟨rest, same, yields⟩
          refine ⟨piece ++ rest, ?_, gives.yields.only yields⟩
          rw [same, joined_cons, List.append_assoc]
      · rintro error _ ⟨_, rfl, refuses⟩
        exact refuses

theorem collect_eq (content : Content) :
    collect content =
      match Transfer.copyPieces gather (content.bound + 1) 0 ⟨content, []⟩ with
      | .ok _ transfer => .ok (joined transfer.place) transfer.content
      | .error fault transfer => .error fault transfer.content := rfl

/-- What is collected from a stream is all that it yields. -/
theorem collect_ends (opened : stream.closed = false) (sound : stream.reader.Sound failure more) :
    Ends (collect (.unpacked stream))
      (fun bytes after => after.terms = stream.terms ∧
        forall content, stream.Yields more content ↔ content = bytes)
      (fun error after => after.terms = stream.terms ∧ stream.Refuses failure more error) := by
  have within := Gzip.Stream.potential_le_outputBound sound
  have ends := copyPieces_ends (stream.outputBound + 1) 0 [] opened sound (by omega)
  have leaves := Transfer.copyPieces_leaves_terms gather (stream.outputBound + 1) 0
    ⟨.unpacked stream, []⟩
  rw [collect_eq, Content.bound]
  cases copied : Transfer.copyPieces gather (stream.outputBound + 1) 0 ⟨.unpacked stream, []⟩ with
  | ok count after =>
      rw [copied] at leaves
      rcases ends.of_ok copied with ⟨rest, same, yields⟩
      refine ⟨leaves, ?_⟩
      have collected : joined after.place = rest := same
      rw [collected]
      exact yields
  | error error after =>
      rw [copied] at leaves
      exact ⟨leaves, ends.of_error copied⟩

end Sink
end ObjectWatch
