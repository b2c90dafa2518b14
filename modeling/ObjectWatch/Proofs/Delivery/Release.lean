import ObjectWatch.Proofs.Delivery.Outcome

/-!
# When content is let go

A sink that has begun lets go of the content however the delivery goes on: it closes it after a failure
of the content, after one of the place, and after success.  The sink of a file begins only once the folder
of the file and a draft in it are made.  If that fails, the content is handed back as it was.  The fault is
about files or about the path, so nothing tells that the content is still open.

Content that refuses to be closed is not covered: what becomes of it is up to the body.
-/

namespace ObjectWatch

namespace Content

/-- The content is closed, and so is the body below it. -/
def isClosed : Content -> Bool
  | raw body => body.closed
  | unpacked stream => stream.closed && stream.body.closed

/-- Content that does not refuse is closed by closing it. -/
theorem close_of_willing {content : Content} (willing : content.body.closeFault = none) :
    exists after, content.close = .ok () after ∧ after.isClosed = true := by
  have closes := Body.close_of_willing willing
  cases content with
  | raw body => exact ⟨_, congrArg (within .raw) closes, rfl⟩
  | unpacked stream =>
      have closesStream : stream.close = .ok ()
          { stream with closed := true, reader.source.body := { stream.body with closed := true } } := by
        rw [Gzip.Stream.close, show stream.body.close = _ from closes]
        rfl
      exact ⟨_, congrArg (within .unpacked) closesStream, rfl⟩

end Content

namespace Transfer

variable {α β : Type}

theorem copy_leaves_terms (accept : Bytes -> α -> Except Fault α) : Leaves terms (copy accept) :=
  Leaves.of_get fun transfer => copyPieces_leaves_terms accept (transfer.content.bound + 1) 0

/-- Willing content that is closed before the computation returns or fails is closed then. -/
theorem isClosed_of_close {last : Attempt (Transfer α) β}
    (keeps : forall transfer, stateOf (last transfer) = transfer) {transfer : Transfer α}
    (willing : transfer.content.body.closeFault = none) :
    (stateOf ((onContent Content.close *> last) transfer)).content.isClosed = true := by
  rcases Content.close_of_willing willing with ⟨content, closes, closed⟩
  rw [seqRight_apply, onContent, closes]
  dsimp only
  rw [keeps]
  exact closed

/-- However the computation ends, willing content is closed after it. -/
theorem isClosed_of_closing {act : Attempt (Transfer α) β} (leaves : Leaves terms act)
    {transfer : Transfer α} (willing : transfer.content.body.closeFault = none) :
    (stateOf (closing act transfer)).content.isClosed = true := by
  unfold closing
  cases ended : act transfer with
  | ok value after =>
      have terms : after.terms = transfer.terms := leaves.of_ok ended
      exact isClosed_of_close (fun _ => rfl) ((congrArg Body.closeFault terms).trans willing)
  | error fault after =>
      have terms : after.terms = transfer.terms := leaves.of_error ended
      exact isClosed_of_close (fun _ => rfl) ((congrArg Body.closeFault terms).trans willing)

end Transfer

namespace Sink

variable {path : Path} {draft : Draft} {content : Content}

/-- Willing content is closed when what was written is passed on. -/
theorem isClosed_of_deliverToOutput (place : Output) (willing : content.body.closeFault = none) :
    (stateOf (deliverToOutput ⟨content, place⟩)).content.isClosed = true := by
  have closed : (stateOf (copyToOutput ⟨content, place⟩)).content.isClosed = true :=
    Transfer.isClosed_of_closing (Transfer.copy_leaves_terms _) willing
  rw [deliverToOutput_apply]
  cases copied : copyToOutput ⟨content, place⟩ with
  | error fault done =>
      rw [copied] at closed
      exact closed
  | ok size done =>
      rw [copied] at closed
      dsimp only
      cases done.place.flush <;> exact closed

theorem collect_leaves_terms : Leaves Content.terms collect := by
  intro content
  have leaves := Transfer.copyPieces_leaves_terms gather (content.bound + 1) 0 ⟨content, []⟩
  rw [collect_eq]
  cases copied : Transfer.copyPieces gather (content.bound + 1) 0 ⟨content, []⟩ <;>
    (rw [copied] at leaves; exact leaves)

theorem fillDraft_leaves_terms (path : Path) (draft : Draft) :
    Leaves Transfer.terms (fillDraft path draft) := by
  rintro ⟨content, files⟩
  unfold fillDraft
  cases collected : collect content with
  | error fault after => exact collect_leaves_terms.of_error collected
  | ok bytes after =>
      have terms := collect_leaves_terms.of_ok collected
      dsimp only
      cases files.publish { draft with content := bytes } path <;> exact terms

/-- The sink comes to touch the content.  A file needs its folder and a draft in it first. -/
def Begins (sink : Sink) (storage : Storage) : Prop :=
  match sink with
  | output => True
  | file path =>
      '\x00' ∉ path.parent.text.toList ∧
        exists folders draft begun, storage.files.ensureFolders path.parent = .ok () folders ∧
          folders.beginDraft path = .ok (draft, begun)

theorem begins_file_iff {storage : Storage} :
    (file path).Begins storage ↔ exists draft made, openDraft path storage.files = .ok draft made := by
  constructor
  · rintro ⟨plain, folders, draft, begun, ensured, begins⟩
    exact ⟨draft, begun, FileTree.openDraft_eq_ok_iff.mpr ⟨plain, folders, ensured, begins⟩⟩
  · rintro ⟨draft, made, opened⟩
    rcases FileTree.openDraft_eq_ok_iff.mp opened with ⟨plain, folders, ensured, begins⟩
    exact ⟨plain, folders, draft, made, ensured, begins⟩

theorem isClosed_of_begins {sink : Sink} {storage : Storage} (begins : sink.Begins storage)
    (willing : content.body.closeFault = none) :
    (stateOf (sink.deliver ⟨content, storage⟩)).content.isClosed = true := by
  unfold deliver
  cases sink with
  | output =>
      have closed := isClosed_of_deliverToOutput storage.output willing
      dsimp only
      cases delivered : deliverToOutput ⟨content, storage.output⟩ <;>
        (rw [delivered] at closed; exact closed)
  | file path =>
      rcases begins_file_iff.mp begins with ⟨draft, made, opened⟩
      have same : deliverToFile path ⟨content, storage.files⟩ =
          Transfer.closing (fillDraft path draft) ⟨content, made⟩ := by
        unfold deliverToFile
        dsimp only
        rw [opened]
      have closed : (stateOf (deliverToFile path ⟨content, storage.files⟩)).content.isClosed = true := by
        rw [same]
        exact Transfer.isClosed_of_closing (fillDraft_leaves_terms path draft) willing
      dsimp only
      cases delivered : deliverToFile path ⟨content, storage.files⟩ <;>
        (rw [delivered] at closed; exact closed)

/-- A sink that does not begin hands the content back as it was. -/
theorem deliver_of_not_begins {sink : Sink} {storage : Storage} (idle : ¬ sink.Begins storage)
    (content : Content) :
    exists fault after, sink.deliver ⟨content, storage⟩ = .error fault ⟨content, after⟩ ∧
      (fault.spoilsOpening = true ∨ fault = embeddedZero) := by
  cases sink with
  | output => exact absurd trivial idle
  | file path =>
      cases opened : openDraft path storage.files with
      | ok draft made => exact absurd (begins_file_iff.mpr ⟨draft, made, opened⟩) idle
      | error fault made =>
          have told := ((openDraft_ends path storage.files).of_error opened).2
          refine ⟨fault, { storage with files := made }, ?_, told.imp id And.right⟩
          unfold deliver deliverToFile
          dsimp only
          rw [opened]

/-- Content that does not refuse is closed after a delivery exactly if it was closed before or the sink
has begun.  If the sink has not begun, the delivery fails, the content is as it was, and the fault is one
about files or about the path. -/
theorem released_iff_begins (sink : Sink) (storage : Storage) {content : Content}
    (willing : content.body.closeFault = none) :
    ((stateOf (sink.deliver ⟨content, storage⟩)).content.isClosed = true ↔
      content.isClosed = true ∨ sink.Begins storage) ∧
    (¬ sink.Begins storage -> exists fault after,
      sink.deliver ⟨content, storage⟩ = .error fault ⟨content, after⟩ ∧
        (fault.spoilsOpening = true ∨ fault = embeddedZero)) := by
  refine ⟨?_, fun idle => deliver_of_not_begins idle content⟩
  by_cases begins : sink.Begins storage
  · exact ⟨fun _ => .inr begins, fun _ => isClosed_of_begins begins willing⟩
  · rcases deliver_of_not_begins begins content with ⟨fault, after, failed, _⟩
    rw [failed]
    exact ⟨.inl, fun either => either.resolve_right begins⟩

/-- Below a file there can be no folder, so the content stays open.  Next to the file a draft is begun,
and the content is closed although it breaks. -/
theorem released_iff_begins_beside_file :
    let files : FileTree := { entries := [(Location.working ++ ["a"], .file [1])] }
    let content : Content := .raw { rest := [97, 98], failure := some (.endOfData "cut") }
    (stateOf ((file ⟨"", ["a", "b"]⟩).deliver ⟨content, { files }⟩)).content.isClosed = false ∧
      (stateOf ((file ⟨"", ["b"]⟩).deliver ⟨content, { files }⟩)).content.isClosed = true := by
  intro files content
  have below := @released_iff_begins (file ⟨"", ["a", "b"]⟩) { files } content rfl
  have beside := @released_iff_begins (file ⟨"", ["b"]⟩) { files } content rfl
  constructor
  · refine Bool.eq_false_iff.mpr fun closed => ?_
    rcases below.1.mp closed with impossible | ⟨_, _, _, _, ensured, _⟩
    · cases impossible
    · have refused : files.ensureFolders (Path.parent ⟨"", ["a", "b"]⟩) =
          .error (.alreadyExists, ⟨"", ["a"]⟩) files := by with_unfolding_all rfl
      rw [refused] at ensured
      cases ensured
  · refine beside.1.mpr (.inr ?_)
    have folder : files.isFolder (Path.parent ⟨"", ["b"]⟩) = true := by decide +kernel
    exact ⟨by decide +kernel, files, _, _, FileTree.ensureFolders_of_isFolder folder,
      by with_unfolding_all rfl⟩

end Sink
end ObjectWatch
