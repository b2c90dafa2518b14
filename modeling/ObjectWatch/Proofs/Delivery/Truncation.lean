import ObjectWatch.Proofs.Delivery.Collection
import ObjectWatch.Proofs.Delivery.Draft

/-!
# A truncated download is never published

A proper part of a gzip member is no gzip file, wherever it ends.  Either the content cannot be opened,
or the sink meets the missing end while it collects, and then the draft is discarded.  In both cases the
fault is one of content that is not gzip, and every file is as it was.
-/

namespace ObjectWatch
namespace Sink

open Gzip (Stream)

variable {body : Body} {path : Path}

/-- Open a body as a gzip file and let a sink take what it stands for. -/
def deliverUnpacked (sink : Sink) (body : Body) : Attempt Storage Nat := fun storage =>
  match Gzip.openBody body with
  | .error (fault, _) => .error fault storage
  | .ok stream =>
      match sink.deliver ⟨.unpacked stream, storage⟩ with
      | .ok size after => .ok size after.place
      | .error fault after => .error fault after.place

/-- No file was changed and no draft was left. -/
structure Untouched (before after : FileTree) : Prop where
  drafts : after.drafts = before.drafts
  files : forall location content,
    after.node? location = some (.file content) ↔ before.node? location = some (.file content)

theorem Untouched.of_onlyFolders {before after : FileTree} (only : before.OnlyFolders after) :
    Untouched before after := ⟨only.drafts, only.file_iff⟩

/-- Content that cannot be collected is not published. -/
theorem deliverToFile_of_not_collected (plain : path.IsPlain) {content : Content}
    (fails : Ends (collect content) (fun _ _ => False)
      (fun fault after => after.terms = content.terms ∧ fault.spoilsOpening = true))
    (closes : forall fault, content.terms.closeFault = some fault -> fault.spoilsOpening = true)
    (files : FileTree) :
    exists fault after, deliverToFile path ⟨content, files⟩ = .error fault after ∧
      fault.spoilsOpening = true ∧ Untouched files after.place := by
  have opening := openDraft_ends path files
  unfold deliverToFile
  cases opened : openDraft path files with
  | error fault made =>
      rcases opening.of_error opened with ⟨only, refused⟩
      have spoils := refused.resolve_right fun zero => zero.1 plain
      exact ⟨fault, ⟨content, made⟩, rfl, spoils, .of_onlyFolders only⟩
  | ok draft made =>
      have only := (opening.of_ok opened).1
      cases collected : collect content with
      | ok bytes after => exact (fails.of_ok collected).elim
      | error fault after =>
          rcases fails.of_error collected with ⟨same, spoils⟩
          have filled : fillDraft path draft ⟨content, made⟩ =
              .error fault ⟨after, made.discardDraft⟩ := by
            rw [fillDraft, collected]
          rcases Transfer.closing_of_error filled with ⟨told, closed, failed, place, cause⟩
          refine ⟨told, closed, failed, ?_, ?_⟩
          · rcases cause with rfl | refuses
            · exact spoils
            · exact closes told (same ▸ refuses)
          · rw [place]
            exact .of_onlyFolders only

theorem deliver_file_of_error {content : Content} {storage : Storage} {fault : Fault}
    {after : Transfer FileTree}
    (failed : deliverToFile path ⟨content, storage.files⟩ = .error fault after) :
    (file path).deliver ⟨content, storage⟩ =
      .error fault ⟨after.content, { storage with files := after.place }⟩ := by
  unfold deliver
  dsimp only
  rw [failed]

/-! ## Downloads -/

/-- Opening a body that stands for nothing fails, or it gives a stream that yields nothing.  A body that
serves a single byte at first shows no magic bytes. -/
theorem prime_of_refused {body : Body} (opened : body.closed = false) (unfailing : body.failure = none)
    (serves : forall cap, body.readCap = some cap -> 0 < cap)
    (refused : Gzip.decode? body.rest = none) :
    Ends (Stream.prime (Stream.ofBody body))
      (fun _ stream => stream.closed = false ∧ stream.reader.Sound none [] ∧
        forall content, ¬ stream.Yields [] content)
      (fun fault _ => fault.spoilsOpening = true) := by
  by_cases showsTwo : 2 ≤ body.capped 2
  · have shows : body.Shows none := .inr ⟨showsTwo, .inl rfl⟩
    refine (Stream.prime_ends ⟨opened, unfailing, serves, fun _ => rfl⟩ shows).mono ?_ ?_
    · intro _ stream gives
      refine ⟨gives.opened, gives.sound, fun content yields => ?_⟩
      rw [gives.yields_iff, List.append_nil, refused] at yields
      cases yields
    · intro fault stream refuses
      rcases refuses with failed | ⟨spoils, _⟩
      · cases failed
      · exact spoils
  · have positive : 0 < body.capped 2 := Body.capped_positive serves (by decide)
    have nonempty : 0 < body.rest.length := by
      refine List.length_pos_iff.mpr fun empty => ?_
      rw [empty, Gzip.decode?_nil] at refused
      cases refused
    have lone : (body.rest.take (body.capped 2)).length = 1 := by
      rw [List.length_take]
      omega
    rcases Stream.prime_of_lone_byte opened lone with ⟨message, after, failed⟩
    rw [failed]
    exact rfl

/-- A body that stands for nothing is never published. -/
theorem deliverUnpacked_of_refused (plain : path.IsPlain) {body : Body} (opened : body.closed = false)
    (unfailing : body.failure = none) (serves : forall cap, body.readCap = some cap -> 0 < cap)
    (closes : forall fault, body.closeFault = some fault -> fault.spoilsOpening = true)
    (refused : Gzip.decode? body.rest = none) (storage : Storage) :
    exists fault after, deliverUnpacked (.file path) body storage = .error fault after ∧
      fault.spoilsOpening = true ∧ Untouched storage.files after.files := by
  have primes := prime_of_refused opened unfailing serves refused
  unfold deliverUnpacked
  cases primed : Stream.prime (Stream.ofBody body) with
  | error fault stream =>
      have spoils := primes.of_error primed
      rcases Stream.openBody_of_error primed with ⟨told, after, failed, cause⟩
      rw [failed]
      refine ⟨told, storage, rfl, ?_, .of_onlyFolders (.refl storage.files)⟩
      rcases cause with rfl | ⟨_, refuses⟩
      · exact spoils
      · exact closes told refuses
  | ok _ stream =>
      rcases primes.of_ok primed with ⟨streamOpened, sound, nothing⟩
      have opens : Gzip.openBody body = .ok stream := by rw [Gzip.openBody, primed]
      have terms : stream.terms = body.terms := Stream.prime_heeds_terms.leaves.of_ok primed
      have fails : Ends (collect (.unpacked stream)) (fun _ _ => False)
          (fun fault after => after.terms = stream.terms ∧ fault.spoilsOpening = true) := by
        refine (collect_ends streamOpened sound).mono ?_ ?_
        · intro bytes after given
          rcases given with ⟨_, yields⟩
          exact nothing bytes ((yields bytes).mpr rfl)
        · intro fault after met
          rcases met with ⟨same, failed | ⟨spoils, _⟩⟩
          · cases failed
          · exact ⟨same, spoils⟩
      have closesStream : forall fault, stream.terms.closeFault = some fault ->
          fault.spoilsOpening = true := by
        rw [terms]
        exact closes
      rcases deliverToFile_of_not_collected plain fails closesStream storage.files with
        ⟨fault, after, failed, spoils, untouched⟩
      rw [opens]
      dsimp only
      rw [deliver_file_of_error failed]
      exact ⟨fault, { storage with files := after.place }, rfl, spoils, untouched⟩

/-- A truncated download is never published.  Of a member, which the stream would accept as a whole,
only the first bytes arrive, at any cut and in reads of any sizes that serve something.  The delivery
fails as that of content that is not gzip, every file keeps its content, and no draft is left. -/
theorem truncation_never_published {whole content : Bytes}
    (single : Gzip.member? whole = some (content, [])) {cut : Nat} (positive : 0 < cut)
    (proper : cut < whole.length) (readCap : Option Nat)
    (serves : forall cap, readCap = some cap -> 0 < cap)
    (limits : Nat -> Option { limit : Nat // 0 < limit }) (closeFault : Option Fault)
    (closes : forall fault, closeFault = some fault -> fault.spoilsOpening = true)
    (plain : path.IsPlain) (storage : Storage) :
    exists fault after,
      deliverUnpacked (.file path) { rest := whole.take cut, readCap, limits, closeFault } storage =
        .error fault after ∧
      fault.spoilsOpening = true ∧ Untouched storage.files after.files := by
  have refused := Gzip.decode?_take_eq_none single positive proper
  exact deliverUnpacked_of_refused plain rfl rfl serves closes refused storage

/-- A member that loses its last four bytes leaves the file that is there as it is. -/
theorem truncation_never_published_in_trailer :
    let files : FileTree := { entries := [(Location.working ++ ["out"], .file [1])] }
    exists fault after,
      deliverUnpacked (.file ⟨"", ["out"]⟩) { rest := Gzip.letterMember.take 20, readCap := some 3 }
        { files } = .error fault after ∧
      fault.spoilsOpening = true ∧ Untouched files after.files := by
  refine @truncation_never_published _ Gzip.letterMember [97] ?_ 20 ?_ ?_ (some 3) ?_ (fun _ => none)
    none ?_ ?_ _
  · decide +kernel
  · decide
  · decide
  · intro cap same
    cases same
    decide
  · intro fault impossible
    cases impossible
  · show '\x00' ∉ (Path.text ⟨"", ["out"]⟩).toList
    decide +kernel

end Sink
end ObjectWatch
