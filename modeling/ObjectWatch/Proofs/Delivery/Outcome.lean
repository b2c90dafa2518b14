import ObjectWatch.Proofs.Delivery.Reading
import ObjectWatch.Proofs.Delivery.Usability

/-!
# What becomes of a delivery

A delivery succeeds exactly when three things hold: the content is read to its end, the body below it
does not refuse to be closed, and the sink takes every byte.  Standard output takes what it has room
for, if it can pass that on, and a file takes everything if its path is usable.  When a delivery
fails, the fault comes from one of the three.

However a delivery ends, a usable path stays usable.
-/

namespace ObjectWatch

/-! ## Handing pieces over -/

/-- A place takes bytes in pieces: what it takes does not depend on how the bytes are cut, and it only
refuses like the operating system. -/
structure Accepts {α : Type} (accept : Bytes -> α -> Except Fault α) (holds : α -> Bytes)
    (takes : α -> Bytes -> Prop) : Prop where
  nothing : forall place, takes place []
  accepted : forall {piece place after}, accept piece place = .ok after ->
    holds after = holds place ++ piece ∧ forall rest, takes place (piece ++ rest) ↔ takes after rest
  refused : forall {piece place fault}, accept piece place = .error fault ->
    fault.spoilsOpening = true ∧ forall rest, ¬ takes place (piece ++ rest)

namespace Transfer

variable {α β : Type} {content left : Content} {bytes : Bytes} {stop : Option Fault}

section Rounds

variable {accept : Bytes -> α -> Except Fault α} {next : Content} {piece : Bytes} {fault : Fault}
  {place : α} (rounds size : Nat)

/-- A round in which nothing is read is the last one. -/
theorem copyPieces_of_end (read : Content.read pieceSize content = .ok [] left) :
    copyPieces accept (rounds + 1) size ⟨content, place⟩ = .ok size ⟨left, place⟩ := by
  have first : onContent (Content.read pieceSize) ⟨content, place⟩ = .ok [] ⟨left, place⟩ := by
    rw [onContent, read]
  rw [copyPieces, bind_of_ok first]
  rfl

/-- A round in which reading fails is the last one. -/
theorem copyPieces_of_failure (read : Content.read pieceSize content = .error fault left) :
    copyPieces accept (rounds + 1) size ⟨content, place⟩ = .error fault ⟨left, place⟩ := by
  have first : onContent (Content.read pieceSize) ⟨content, place⟩ = .error fault ⟨left, place⟩ := by
    rw [onContent, read]
  rw [copyPieces, bind_of_error first]

/-- A round hands the piece that was read to the place. -/
theorem copyPieces_of_piece (read : Content.read pieceSize content = .ok piece next)
    (nonempty : piece ≠ []) :
    copyPieces accept (rounds + 1) size ⟨content, place⟩ =
      match accept piece place with
      | .ok further => copyPieces accept rounds (size + piece.length) ⟨next, further⟩
      | .error fault => .error fault ⟨next, place⟩ := by
  have first : onContent (Content.read pieceSize) ⟨content, place⟩ = .ok piece ⟨next, place⟩ := by
    rw [onContent, read]
  have something : piece.isEmpty = false := List.isEmpty_eq_false_iff.mpr nonempty
  rw [copyPieces, bind_of_ok first, if_neg (by rw [something]; exact Bool.false_ne_true), bind_apply,
    onPlace]
  cases accept piece place <;> rfl

end Rounds

/-- Copying ends well if reading does and the place takes everything. -/
theorem copyPieces_of_reads {accept : Bytes -> α -> Except Fault α} {holds : α -> Bytes}
    {takes : α -> Bytes -> Prop} (accepts : Accepts accept holds takes)
    (reads : content.Reads bytes stop left) {rounds : Nat} (enough : bytes.length < rounds)
    (size : Nat) (place : α) :
    Ends (copyPieces accept rounds size ⟨content, place⟩)
      (fun total after => stop = none ∧ takes place bytes ∧ total = size + bytes.length ∧
        holds after.place = holds place ++ bytes)
      (fun fault _ => stop = some fault ∨ ¬ takes place bytes ∧ fault.spoilsOpening = true) := by
  induction reads generalizing rounds size place with
  | ended read =>
      rcases Nat.exists_eq_add_of_lt enough with ⟨fewer, rfl⟩
      rw [copyPieces_of_end _ _ read]
      exact ⟨rfl, accepts.nothing place, rfl, (List.append_nil _).symm⟩
  | failed read =>
      rcases Nat.exists_eq_add_of_lt enough with ⟨fewer, rfl⟩
      rw [copyPieces_of_failure _ _ read]
      exact .inl rfl
  | @piece content next left piece rest stop read nonempty later inductionHypothesis =>
      rcases Nat.exists_eq_add_of_lt enough with ⟨fewer, rfl⟩
      have positive := List.length_pos_iff.mpr nonempty
      rw [copyPieces_of_piece _ _ read nonempty]
      cases handed : accept piece place with
      | error fault =>
          rcases accepts.refused handed with ⟨spoils, refuses⟩
          exact .inr ⟨refuses rest, spoils⟩
      | ok further =>
          rcases accepts.accepted handed with ⟨holdsPiece, takesRest⟩
          have enoughLater : rest.length < (piece ++ rest).length + fewer := by
            rw [List.length_append]
            omega
          refine (inductionHypothesis enoughLater (size + piece.length) further).mono ?_ ?_
          · rintro total after ⟨ended, takes, same, held⟩
            refine ⟨ended, (takesRest rest).mpr takes, ?_, ?_⟩
            · rw [same, List.length_append, Nat.add_assoc]
            · rw [held, holdsPiece, List.append_assoc]
          · intro fault after failed
            refine failed.imp id fun refused => ⟨fun takes => refused.1 ?_, refused.2⟩
            exact (takesRest rest).mp takes

/-- Closing after success succeeds as well, or tells that the content refuses to be closed. -/
theorem closing_of_ok {act : Attempt (Transfer α) β} {transfer after : Transfer α} {value : β}
    (ended : act transfer = .ok value after) :
    Ends (closing act transfer)
      (fun result closed => result = value ∧ closed.place = after.place ∧
        after.terms.closeFault = none)
      (fun told closed => closed.place = after.place ∧ after.terms.closeFault = some told) := by
  have closes := Content.close_ends after.content
  unfold closing
  rw [ended]
  dsimp only
  rw [seqRight_apply, onContent]
  cases closed : Content.close after.content with
  | ok _ content => exact ⟨rfl, rfl, closes.of_ok closed⟩
  | error refusal content => exact ⟨rfl, closes.of_error closed⟩

/-- Closing changes nothing in the place. -/
theorem closing_place (act : Attempt (Transfer α) β) (transfer : Transfer α) :
    (stateOf (closing act transfer)).place = (stateOf (act transfer)).place := by
  cases ended : act transfer with
  | ok value after =>
      have closes := closing_of_ok ended
      cases closed : closing act transfer with
      | ok result final => exact (closes.of_ok closed).2.1
      | error fault final => exact (closes.of_error closed).1
  | error fault after =>
      rcases closing_of_error ended with ⟨told, final, failed, place, _⟩
      rw [failed]
      exact place

end Transfer

/-! ## Standard output -/

/-- There is room for bytes, or no limit. -/
def Output.HasRoom (output : Output) (bytes : Bytes) : Prop :=
  forall room, output.room = some room -> bytes.length ≤ room

/-- Bytes can be written and passed on. -/
structure Output.Takes (output : Output) (bytes : Bytes) : Prop where
  hasRoom : output.HasRoom bytes
  flushes : output.flushError = none

theorem Output.takes_iff (output : Output) (piece : Bytes) :
    output.takes piece = true ↔ output.HasRoom piece := by
  unfold Output.takes Output.HasRoom
  cases output.room with
  | none => simp
  | some room => simp

theorem Output.push_hasRoom_iff {output : Output} {piece : Bytes} (fits : output.HasRoom piece)
    (rest : Bytes) : output.HasRoom (piece ++ rest) ↔ (output.push piece).HasRoom rest := by
  unfold Output.HasRoom Output.push at *
  cases room : output.room with
  | none => simp
  | some most =>
      have fits := fits most room
      simp only [Option.map_some, Option.some.injEq, forall_eq', List.length_append]
      omega

theorem Output.accepts :
    Accepts (fun piece output => Output.write output piece) Output.written Output.HasRoom where
  nothing _ _ _ := Nat.zero_le _
  accepted := by
    intro piece output after written
    unfold Output.write at written
    split at written
    · rename_i fits
      cases written
      exact ⟨output.written_push piece, Output.push_hasRoom_iff ((output.takes_iff piece).mp fits)⟩
    · cases written
  refused := by
    intro piece output fault refused
    unfold Output.write at refused
    split at refused
    · cases refused
    · rename_i tight
      cases refused
      refine ⟨rfl, fun rest takes => tight ((output.takes_iff piece).mpr fun room most => ?_)⟩
      have whole := takes room most
      rw [List.length_append] at whole
      omega

/-- Writing has no part in whether what was written can be passed on. -/
theorem Output.flushError_of_write {piece : Bytes} {output after : Output}
    (written : output.write piece = .ok after) : after.flushError = output.flushError := by
  unfold Output.write at written
  split at written
  · cases written
    rfl
  · cases written

theorem Output.flush_of_sound {output : Output} (sound : output.flushError = none) :
    output.flush = .ok ((), output) := by
  rw [Output.flush, sound]

/-- Passing on what was written fails like the operating system. -/
theorem Output.flush_of_broken {output : Output} (broken : output.flushError ≠ none) :
    exists fault, output.flush = .error fault ∧ fault.spoilsOpening = true := by
  rcases Option.ne_none_iff_exists'.mp broken with ⟨⟨kind, message⟩, same⟩
  refine ⟨.system kind message, ?_, rfl⟩
  rw [Output.flush, same]

namespace Sink

open Gzip.Stream (joined joined_cons)

variable {content left : Content} {bytes : Bytes} {stop : Option Fault}

/-- Gathering takes everything. -/
theorem gather_accepts : Accepts gather joined (fun _ _ => True) where
  nothing _ := trivial
  accepted := by
    intro piece pieces after gathered
    cases gathered
    exact ⟨joined_cons piece pieces, fun _ => Iff.rfl⟩
  refused := by
    intro piece pieces fault impossible
    cases impossible

theorem collect_of_reads (reads : content.Reads bytes stop left)
    (bounded : bytes.length ≤ content.bound) :
    Ends (collect content)
      (fun collected after => stop = none ∧ collected = bytes ∧ after.terms = content.terms)
      (fun fault after => stop = some fault ∧ after.terms = content.terms) := by
  have copies := Transfer.copyPieces_of_reads gather_accepts reads (Nat.lt_succ_of_le bounded) 0 []
  have leaves := Transfer.copyPieces_leaves_terms gather (content.bound + 1) 0
  rw [collect_eq]
  cases copied : Transfer.copyPieces gather (content.bound + 1) 0 ⟨content, []⟩ with
  | ok size after =>
      rcases copies.of_ok copied with ⟨ended, _, _, held⟩
      exact ⟨ended, held, leaves.of_ok copied⟩
  | error fault after =>
      rcases copies.of_error copied with stopped | ⟨refused, _⟩
      · exact ⟨stopped, leaves.of_error copied⟩
      · exact absurd trivial refused

/-! ## Deliveries -/

/-- A sink takes bytes now. -/
def Takes (sink : Sink) (storage : Storage) (bytes : Bytes) : Prop :=
  match sink with
  | output => storage.output.Takes bytes
  | file path => storage.files.IsUsable path

/-- The path of a sink, if it has one, holds no zero character. -/
def IsPlain : Sink -> Prop
  | output => True
  | file path => path.IsPlain

/-- Copying to standard output ends well if reading does and there is room for every byte. -/
theorem copyToOutput_ends (reads : content.Reads bytes stop left)
    (bounded : bytes.length ≤ content.bound) (place : Output) :
    Ends (copyToOutput ⟨content, place⟩)
      (fun size done => stop = none ∧ content.terms.closeFault = none ∧ place.HasRoom bytes ∧
        size = bytes.length ∧ done.place.flushError = place.flushError)
      (fun fault _ => stop = some fault ∨ content.terms.closeFault = some fault ∨
        ¬ place.HasRoom bytes ∧ fault.spoilsOpening = true) := by
  have copies := Transfer.copyPieces_of_reads Output.accepts reads (Nat.lt_succ_of_le bounded) 0 place
  have leaves := Transfer.copyPieces_leaves_terms (fun piece output => Output.write output piece)
    (content.bound + 1) 0
  have passes := Transfer.copyPieces_leaves_place (fun piece output => Output.write output piece)
    Output.flushError_of_write (content.bound + 1) 0
  unfold copyToOutput
  cases copied : Transfer.copy (fun piece output => Output.write output piece) ⟨content, place⟩ with
  | ok size after =>
      have terms : after.terms = content.terms := leaves.of_ok copied
      rcases copies.of_ok copied with ⟨ended, takes, same, _⟩
      refine (Transfer.closing_of_ok copied).mono ?_ ?_
      · rintro _ closed ⟨rfl, place, closes⟩
        refine ⟨ended, terms ▸ closes, takes, by rw [same, Nat.zero_add], ?_⟩
        rw [place]
        exact passes.of_ok copied
      · rintro told closed ⟨_, refuses⟩
        exact .inr (.inl (terms ▸ refuses))
  | error fault after =>
      have terms : after.terms = content.terms := leaves.of_error copied
      rcases Transfer.closing_of_error copied with ⟨told, closed, failed, _, cause⟩
      rw [failed]
      rcases cause with rfl | refuses
      · exact (copies.of_error copied).imp id .inr
      · exact .inr (.inl (terms ▸ refuses))

/-- What becomes of copied content once what was written is passed on. -/
theorem deliverToOutput_apply (transfer : Transfer Output) :
    deliverToOutput transfer =
      match copyToOutput transfer with
      | .ok size done =>
          match done.place.flush with
          | .ok (_, place) => .ok size { done with place }
          | .error fault => .error fault done
      | .error fault done => .error fault done := by
  unfold deliverToOutput
  rw [bind_apply]
  cases copyToOutput transfer with
  | error fault done => rfl
  | ok size done =>
      dsimp only
      rw [bind_apply, Transfer.onPlace]
      cases done.place.flush <;> rfl

/-- A delivery to standard output succeeds if reading does and every byte can be written and passed on. -/
theorem deliverToOutput_ends (reads : content.Reads bytes stop left)
    (bounded : bytes.length ≤ content.bound) (place : Output) :
    Ends (deliverToOutput ⟨content, place⟩)
      (fun size _ => stop = none ∧ content.terms.closeFault = none ∧ place.Takes bytes ∧
        size = bytes.length)
      (fun fault _ => stop = some fault ∨ content.terms.closeFault = some fault ∨
        ¬ place.Takes bytes ∧ fault.spoilsOpening = true) := by
  have copies := copyToOutput_ends reads bounded place
  rw [deliverToOutput_apply]
  cases copied : copyToOutput ⟨content, place⟩ with
  | error fault done =>
      refine (copies.of_error copied).imp id fun other => other.imp id fun tight => ?_
      exact ⟨fun takes => tight.1 takes.hasRoom, tight.2⟩
  | ok size done =>
      rcases copies.of_ok copied with ⟨ended, closes, room, same, passes⟩
      dsimp only
      by_cases sound : done.place.flushError = none
      · rw [Output.flush_of_sound sound]
        exact ⟨ended, closes, ⟨room, passes.symm.trans sound⟩, same⟩
      · rcases Output.flush_of_broken sound with ⟨fault, broken, spoils⟩
        rw [broken]
        exact .inr (.inr ⟨fun takes => sound (passes.trans takes.flushes), spoils⟩)

variable {path : Path} {draft : Draft} {files made : FileTree}

/-- Publishing a filled draft fails only where no draft could be published. -/
theorem isUsable_iff_of_openDraft (opened : openDraft path files = .ok draft made) (content : Bytes) :
    files.IsUsable path ↔ exists published, made.publish { draft with content } path = .ok published := by
  constructor
  · intro usable
    exact (usable.isPrepared opened).publish _
  · rintro ⟨published, publishes⟩
    rcases FileTree.publish_eq_ok_iff.mp publishes with ⟨location, located, named, free, _⟩
    exact ⟨draft, made, _, opened, FileTree.publish_eq_ok_iff.mpr ⟨location, located, named, free, rfl⟩⟩

/-- Filling a draft succeeds if reading does and the path is usable. -/
theorem fillDraft_ends (reads : content.Reads bytes stop left)
    (bounded : bytes.length ≤ content.bound) (opened : openDraft path files = .ok draft made) :
    Ends (fillDraft path draft ⟨content, made⟩)
      (fun size after => stop = none ∧ files.IsUsable path ∧ size = bytes.length ∧
        after.terms = content.terms)
      (fun fault after => (stop = some fault ∨
        ¬ files.IsUsable path ∧ fault.spoilsOpening = true) ∧ after.terms = content.terms) := by
  have collects := collect_of_reads reads bounded
  unfold fillDraft
  cases collected : collect content with
  | error fault after =>
      rcases collects.of_error collected with ⟨stopped, terms⟩
      exact ⟨.inl stopped, terms⟩
  | ok collectedBytes after =>
      rcases collects.of_ok collected with ⟨ended, same, terms⟩
      have usable := isUsable_iff_of_openDraft opened collectedBytes
      dsimp only
      cases published : made.publish { draft with content := collectedBytes } path with
      | ok publishedFiles =>
          exact ⟨ended, usable.mpr ⟨_, published⟩, by rw [same], terms⟩
      | error error =>
          refine ⟨.inr ⟨fun isUsable => ?_, rfl⟩, terms⟩
          rcases usable.mp isUsable with ⟨_, publishes⟩
          rw [published] at publishes
          cases publishes

theorem deliverToFile_ends (reads : content.Reads bytes stop left)
    (bounded : bytes.length ≤ content.bound) (files : FileTree) :
    Ends (deliverToFile path ⟨content, files⟩)
      (fun size _ => stop = none ∧ content.terms.closeFault = none ∧ files.IsUsable path ∧
        size = bytes.length)
      (fun fault _ => stop = some fault ∨ content.terms.closeFault = some fault ∨
        ¬ files.IsUsable path ∧
          (fault.spoilsOpening = true ∨ ¬ path.IsPlain ∧ fault = embeddedZero)) := by
  unfold deliverToFile
  cases opened : openDraft path files with
  | error fault made =>
      refine .inr (.inr ⟨?_, ((openDraft_ends path files).of_error opened).2⟩)
      rintro ⟨_, _, _, opens, _⟩
      rw [opened] at opens
      cases opens
  | ok draft made =>
      have fills := fillDraft_ends reads bounded opened
      dsimp only
      cases filled : fillDraft path draft ⟨content, made⟩ with
      | ok size after =>
          rcases fills.of_ok filled with ⟨ended, usable, same, terms⟩
          refine (Transfer.closing_of_ok filled).mono ?_ ?_
          · rintro _ closed ⟨rfl, _, closes⟩
            exact ⟨ended, terms ▸ closes, usable, same⟩
          · rintro told closed ⟨_, refuses⟩
            exact .inr (.inl (terms ▸ refuses))
      | error fault after =>
          rcases fills.of_error filled with ⟨why, terms⟩
          rcases Transfer.closing_of_error filled with ⟨told, closed, failed, _, cause⟩
          rw [failed]
          rcases cause with rfl | refuses
          · exact why.imp id fun refused => .inr ⟨refused.1, .inl refused.2⟩
          · exact .inr (.inl (terms ▸ refuses))

/-- A delivery succeeds if the content is read to its end and closed and the sink takes its bytes, and
it fails for want of one of these. -/
theorem deliver_ends (sink : Sink) (reads : content.Reads bytes stop left)
    (bounded : bytes.length ≤ content.bound) (storage : Storage) :
    Ends (sink.deliver ⟨content, storage⟩)
      (fun size _ => stop = none ∧ content.terms.closeFault = none ∧ sink.Takes storage bytes ∧
        size = bytes.length)
      (fun fault _ => stop = some fault ∨ content.terms.closeFault = some fault ∨
        ¬ sink.Takes storage bytes ∧
          (fault.spoilsOpening = true ∨ ¬ sink.IsPlain ∧ fault = embeddedZero)) := by
  unfold deliver
  cases sink with
  | output =>
      have ends := deliverToOutput_ends reads bounded storage.output
      dsimp only
      cases delivered : deliverToOutput ⟨content, storage.output⟩ with
      | ok size done => exact ends.of_ok delivered
      | error fault done =>
          exact (ends.of_error delivered).imp id fun other =>
            other.imp id fun refused => ⟨refused.1, .inl refused.2⟩
  | file path =>
      have ends := @deliverToFile_ends _ _ _ _ path reads bounded storage.files
      dsimp only
      cases delivered : deliverToFile path ⟨content, storage.files⟩ with
      | ok size done => exact ends.of_ok delivered
      | error fault done => exact ends.of_error delivered

/-! ## Usable sinks -/

/-- The path of a sink, if it has one, is usable. -/
def IsUsable (sink : Sink) (storage : Storage) : Prop :=
  match sink with
  | output => True
  | file path => storage.files.IsUsable path

theorem deliverToFile_isUsable (usable : files.IsUsable path) (content : Content) :
    (stateOf (deliverToFile path ⟨content, files⟩)).place.IsUsable path := by
  unfold deliverToFile
  cases opened : openDraft path files with
  | error fault made =>
      rcases usable with ⟨_, _, _, opens, _⟩
      rw [opened] at opens
      cases opens
  | ok draft made =>
      have prepared := usable.isPrepared opened
      have filled : (stateOf (fillDraft path draft ⟨content, made⟩)).place.IsPrepared path := by
        unfold fillDraft
        cases collect content with
        | error fault after => exact prepared.discardDraft
        | ok collected after =>
            dsimp only
            cases published : made.publish { draft with content := collected } path with
            | error error => exact prepared.discardDraft
            | ok publishedFiles => exact prepared.published published
      dsimp only
      rw [Transfer.closing_place]
      exact filled.isUsable

/-- A usable sink stays usable, whatever becomes of a delivery. -/
theorem IsUsable.deliver {sink : Sink} {storage : Storage} (usable : sink.IsUsable storage)
    (content : Content) : sink.IsUsable (stateOf (sink.deliver ⟨content, storage⟩)).place := by
  cases sink with
  | output => trivial
  | file path =>
      have after := deliverToFile_isUsable usable content
      unfold Sink.deliver
      dsimp only
      cases delivered : deliverToFile path ⟨content, storage.files⟩ with
      | ok size done =>
          rw [delivered] at after
          exact after
      | error fault done =>
          rw [delivered] at after
          exact after

/-! ## Deliveries to a usable sink -/

/-- A sink takes bytes, its path aside: standard output does not if it has no room for them or cannot pass
them on. -/
def WouldTake (sink : Sink) (storage : Storage) (bytes : Bytes) : Prop :=
  match sink with
  | output => storage.output.Takes bytes
  | file _ => True

theorem takes_iff {sink : Sink} {storage : Storage} (usable : sink.IsUsable storage) (bytes : Bytes) :
    sink.Takes storage bytes ↔ sink.WouldTake storage bytes := by
  cases sink with
  | output => exact Iff.rfl
  | file path => exact ⟨fun _ => trivial, fun _ => usable⟩

/-- A delivery to a usable sink succeeds exactly if the content is read to its end and closed. -/
theorem deliver_received {sink : Sink} {storage : Storage} (usable : sink.IsUsable storage)
    (reads : content.Reads bytes stop left) (bounded : bytes.length ≤ content.bound) :
    Ends (sink.deliver ⟨content, storage⟩)
      (fun size _ => content.Received bytes ∧ sink.WouldTake storage bytes ∧ size = bytes.length)
      (fun _ _ => forall others, ¬ (content.Received others ∧ sink.WouldTake storage others)) := by
  refine (sink.deliver_ends reads bounded storage).mono ?_ ?_
  · rintro size _ ⟨ended, closes, takes, same⟩
    exact ⟨(reads.received_iff bytes).mpr ⟨ended, closes, rfl⟩, (takes_iff usable bytes).mp takes, same⟩
  · rintro fault _ failed others ⟨received, wouldTake⟩
    rcases (reads.received_iff others).mp received with ⟨ended, closes, rfl⟩
    rcases failed with stopped | refuses | ⟨refused, _⟩
    · rw [ended] at stopped
      cases stopped
    · rw [closes] at refuses
      cases refuses
    · exact refused ((takes_iff usable others).mpr wouldTake)

end Sink
end ObjectWatch
