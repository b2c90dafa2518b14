import Mathlib.Data.List.Induction
import ObjectWatch.Proofs.Delivery.Outcome

/-!
# A file is replaced as a whole or not at all

A sink delivers one content after another to the same file.  After each delivery the file holds what
it held before, or all of the content that was delivered: the bytes go to a draft, and the draft takes
the place of the file at once, after the content was read to its end.  So the file always holds the
last content that was read to its end, whatever befell the others, and nothing but this file and the
folders on the way to it is touched.

The place of the file is the folder that the path leads to, once that is there, and the name in it.  That
the folder is made first matters for a path that turns back on its way: it can make a folder where the
file is to be put.  Then content is read to its end and lost, and so it is if the path is longer than a
path may be.  `IsReplaceable` rules out both.
-/

namespace ObjectWatch

/-- Content is a stream that a sink can be given: a body in any state, or the stream of a body that was
opened to be unpacked. -/
def Content.IsStream (content : Content) : Prop :=
  exists body unpacked, Content.Presents body unpacked content

namespace FileTree

variable {tree made after : FileTree} {path : Path} {place : Location}

/-- The content of the file at a location, if there is one. -/
def file? (tree : FileTree) (location : Location) : Option Bytes :=
  match tree.node? location with
  | some (.file content) => some content
  | _ => none

theorem file?_eq_some_iff {location : Location} {content : Bytes} :
    tree.file? location = some content ↔ tree.node? location = some (.file content) := by
  unfold file?
  cases tree.node? location with
  | none => simp
  | some node => cases node <;> simp

/-- Making folders changes no file. -/
theorem OnlyFolders.file?_eq (only : tree.OnlyFolders after) (location : Location) :
    after.file? location = tree.file? location := by
  apply Option.ext
  intro content
  rw [file?_eq_some_iff, file?_eq_some_iff]
  exact only.file_iff location content

/-- Putting a file at a place changes no other file. -/
theorem file?_put (free : tree.node? place ≠ some .folder) (content : Bytes) (location : Location) :
    (tree.put place (.file content)).file? location =
      if location = place then some content else tree.file? location := by
  unfold file?
  rw [node?_put place location (.file content) tree (proper_of_node?_ne_folder free)]
  by_cases here : location = place
  · rw [if_pos here, if_pos here]
  · rw [if_neg here, if_neg here]

/-- Putting a file where no folder is loses no folder. -/
theorem keepsFolders_put (free : tree.node? place ≠ some .folder) (content : Bytes) :
    tree.KeepsFolders (tree.put place (.file content)) := by
  intro location folder
  rw [node?_put place location (.file content) tree (proper_of_node?_ne_folder free)]
  by_cases here : location = place
  · subst here
    exact absurd folder free
  · rw [if_neg here]
    exact folder

/-! ## Where a file is put -/

theorem walk_append {names : List String} {location found : Location}
    (walked : tree.walk location names = .ok found) (more : List String) :
    tree.walk location (names ++ more) = tree.walk found more := by
  induction names generalizing location with
  | nil =>
      cases walked
      rfl
  | cons name names inductionHypothesis =>
      rcases walk_cons_of_ok walked with ⟨isFolder, next, rest, enters⟩
      rw [List.cons_append, enters tree isFolder]
      exact inductionHypothesis rest

/-- A path leads to its name in the folder that its parent leads to. -/
theorem locate_of_parent {folder : Location} (located : tree.locate path.parent = .ok folder)
    (isFolder : tree.node? folder = some .folder) (short : path.text.utf8ByteSize ≤ maxPathSize)
    (named : ¬ (path.name = "" ∨ path.name = "..")) (fits : path.name.utf8ByteSize ≤ maxNameSize) :
    tree.locate path = .ok (folder ++ [path.name]) := by
  have nonempty : path.names ≠ [] := by
    intro empty
    apply named
    rw [Path.name, empty]
    exact Or.inl rfl
  have split : path.names = path.parent.names ++ [path.name] := by
    rw [Path.parent, Path.name, List.getLast?_eq_some_getLast nonempty, Option.getD_some,
      List.dropLast_concat_getLast]
  have walked : tree.walk (Location.start path) path.parent.names = .ok folder := by
    unfold locate at located
    split at located
    · cases located
    · exact located
  unfold locate
  rw [if_neg (Nat.not_lt_of_le short), split, walk_append walked]
  unfold walk
  rw [isFolder]
  dsimp only
  rw [if_neg fun up => named (Or.inr up), if_neg (Nat.not_lt_of_le fits)]
  rfl

/-- The folder of a file can be made, and then there is no folder at the place of the file.  The path
names something in that folder, and it is no longer than a path may be. -/
structure IsReplaceable (tree : FileTree) (path : Path) (place : Location) : Prop where
  plain : '\x00' ∉ path.parent.text.toList
  creatable : exists made folder, tree.ensureFolders path.parent = .ok () made ∧
    made.locate path.parent = .ok folder ∧ place = folder ++ [path.name] ∧
    made.node? place ≠ some .folder
  named : ¬ (path.name = "" ∨ path.name = "..")
  short : path.text.utf8ByteSize ≤ maxPathSize

/-- A file stays replaceable as long as no folder is lost and none comes to be at its place. -/
theorem IsReplaceable.of_keeps (replaceable : tree.IsReplaceable path place)
    (created : tree.ensureFolders path.parent = .ok () made) (keeps : made.KeepsFolders after)
    (free : after.node? place ≠ some .folder) : after.IsReplaceable path place := by
  rcases replaceable.creatable with ⟨other, folder, same, located, isPlace, _⟩
  cases created.symm.trans same
  rcases isFolder_iff.mp (isFolder_of_ensureFolders created) with ⟨parent, reached, isFolder⟩
  cases located.symm.trans reached
  have kept : after.locate path.parent = .ok folder := locate_of_keeps keeps located
  have there : after.isFolder path.parent = true :=
    isFolder_iff.mpr ⟨folder, kept, keeps folder isFolder⟩
  exact ⟨replaceable.plain, ⟨after, folder, ensureFolders_of_isFolder there, kept, isPlace, free⟩,
    replaceable.named, replaceable.short⟩

/-- Where no draft can be begun, the folder has been made all the same. -/
theorem IsReplaceable.left_of_refused (replaceable : tree.IsReplaceable path place)
    (created : tree.ensureFolders path.parent = .ok () made) {fault : Fault}
    (refused : Sink.openDraft path tree = .error fault after) : after = made := by
  unfold Sink.openDraft at refused
  rw [if_neg replaceable.plain, created] at refused
  dsimp only at refused
  cases begun : made.beginDraft path with
  | error other =>
      rw [begun] at refused
      cases refused
      rfl
  | ok both =>
      rw [begun] at refused
      cases refused

/-- Once a draft is begun it can be published, whatever it holds, and nothing but its file is new. -/
theorem IsReplaceable.publish (replaceable : tree.IsReplaceable path place)
    (created : tree.ensureFolders path.parent = .ok () made) {draft : Draft}
    (opened : Sink.openDraft path tree = .ok draft after) :
    after.discardDraft = made ∧ forall content,
      after.publish { draft with content } path = .ok (made.put place (.file content)) := by
  rcases replaceable.creatable with ⟨other, folder, again, located, isPlace, free⟩
  cases created.symm.trans again
  rcases openDraft_eq_ok_iff.mp opened with ⟨_, folders, ensured, begun⟩
  cases created.symm.trans ensured
  rcases beginDraft_eq_ok_iff.mp begun with ⟨parent, reached, _, short, isDraft, same⟩
  cases located.symm.trans reached
  have discarded : after.discardDraft = made := by rw [same]; rfl
  have keeps : made.KeepsFolders after := same ▸ keepsFolders_drafts made _
  rcases isFolder_iff.mp (isFolder_of_ensureFolders created) with ⟨parent, found, isFolder⟩
  cases located.symm.trans found
  -- the name of the draft is longer than that of the file
  have fits : path.name.utf8ByteSize ≤ maxNameSize := by
    have draftFits := Nat.le_of_not_lt fun long => short (Or.inl long)
    rw [isDraft] at draftFits
    exact Nat.le_trans (Nat.le_add_right _ _) draftFits
  have target : after.locate path = .ok place := by
    rw [isPlace]
    apply locate_of_keeps keeps
    exact locate_of_parent located isFolder replaceable.short replaceable.named fits
  refine ⟨discarded, fun content => ?_⟩
  apply publish_eq_ok_iff.mpr
  refine ⟨place, target, replaceable.named, ?_, ?_⟩
  · rw [same]
    exact free
  · rw [discarded]

end FileTree

namespace Sink

variable {path : Path} {place : Location} {files : FileTree} {content : Content}

/-! ## One delivery -/

/-- A delivery reads content to its end.  It does not begin to read if no draft can be begun. -/
structure ReadsToEnd (path : Path) (files : FileTree) (content : Content) (bytes : Bytes) : Prop where
  begins : exists draft made, openDraft path files = .ok draft made
  ends : exists left, content.Reads bytes none left

/-- What becomes of a delivery: the folder is made, and then the file is all of the content, if that
was read to its end, and else as it was. -/
inductive Replacement (files : FileTree) (path : Path) (place : Location) (content : Content) :
    EStateM.Result Fault (Transfer FileTree) Nat -> Prop where
  | whole (made : FileTree) (bytes : Bytes) (result : EStateM.Result Fault (Transfer FileTree) Nat)
      (created : files.ensureFolders path.parent = .ok () made)
      (reads : ReadsToEnd path files content bytes)
      (left : (stateOf result).place = made.put place (.file bytes))
      (told : forall size after, result = .ok size after -> size = bytes.length) :
      Replacement files path place content result
  | broken (fault : Fault) (after : Transfer FileTree)
      (created : files.ensureFolders path.parent = .ok () after.place)
      (unread : forall bytes, ¬ ReadsToEnd path files content bytes) :
      Replacement files path place content (.error fault after)

theorem replacement (replaceable : files.IsReplaceable path place) (stream : content.IsStream) :
    Replacement files path place content (deliverToFile path ⟨content, files⟩) := by
  rcases replaceable.creatable with ⟨made, _, created, _⟩
  unfold deliverToFile
  cases opened : openDraft path files with
  | error fault left =>
      rw [← replaceable.left_of_refused created opened] at created
      refine .broken fault ⟨content, left⟩ created fun bytes reads => ?_
      rcases reads.begins with ⟨draft, other, begins⟩
      rw [opened] at begins
      cases begins
  | ok draft drafted =>
      rcases replaceable.publish created opened with ⟨discarded, publishes⟩
      rcases stream with ⟨body, unpacked, presents⟩
      rcases presents.reads with ⟨bytes, stop, left, reads, bounded⟩
      have collects := collect_of_reads reads bounded
      dsimp only
      cases collected : collect content with
      | error fault after =>
          have filled : fillDraft path draft ⟨content, drafted⟩ = .error fault ⟨after, made⟩ := by
            rw [fillDraft, collected]
            dsimp only
            rw [discarded]
          rcases Transfer.closing_of_error filled with ⟨told, closed, failed, unchanged, _⟩
          rw [failed]
          refine .broken told closed (unchanged ▸ created) fun others whole => ?_
          rcases whole.ends with ⟨otherLeft, ends⟩
          have stopped := (collects.of_error collected).1
          rw [(reads.unique ends).2.1] at stopped
          cases stopped
      | ok gathered after =>
          rcases collects.of_ok collected with ⟨rfl, rfl, _⟩
          have filled : fillDraft path draft ⟨content, drafted⟩ =
              .ok gathered.length ⟨after, made.put place (.file gathered)⟩ := by
            rw [fillDraft, collected]
            dsimp only
            rw [publishes gathered]
          refine .whole made gathered _ created ⟨⟨draft, drafted, opened⟩, left, reads⟩ ?_ ?_
          · rw [Transfer.closing_place, filled]
            rfl
          · intro size closed ended
            exact ((Transfer.closing_of_ok filled).of_ok ended).1

namespace Replacement

variable {result : EStateM.Result Fault (Transfer FileTree) Nat}

/-- A delivery leaves the file replaceable. -/
theorem isReplaceable (course : Replacement files path place content result)
    (replaceable : files.IsReplaceable path place) :
    (stateOf result).place.IsReplaceable path place := by
  rcases replaceable.creatable with ⟨made, folder, created, located, isPlace, free⟩
  cases course with
  | whole other bytes result same reads left told =>
      cases created.symm.trans same
      rw [left]
      apply replaceable.of_keeps created (FileTree.keepsFolders_put free bytes)
      have found := FileTree.node?_put place place (.file bytes) made
        (FileTree.proper_of_node?_ne_folder free)
      rw [if_pos rfl] at found
      rw [found]
      intro impossible
      cases impossible
  | broken fault after same unread =>
      cases created.symm.trans same
      exact replaceable.of_keeps created (fun _ folder => folder) free

/-- A delivery leaves no draft behind. -/
theorem drafts_eq (course : Replacement files path place content result) :
    (stateOf result).place.drafts = files.drafts := by
  have folders := files.ensureFolders_ends path.parent
  cases course with
  | whole made bytes result created reads left told =>
      rw [left]
      exact (folders.of_ok created).drafts
  | broken fault after created unread => exact (folders.of_ok created).drafts

/-- The files after a delivery: the one at the place may be new. -/
theorem file?_eq (course : Replacement files path place content result)
    (replaceable : files.IsReplaceable path place) (location : Location) :
    (exists bytes, ReadsToEnd path files content bytes ∧
      (stateOf result).place.file? location =
        if location = place then some bytes else files.file? location) ∨
    (forall bytes, ¬ ReadsToEnd path files content bytes) ∧
      (stateOf result).place.file? location = files.file? location := by
  have folders := files.ensureFolders_ends path.parent
  rcases replaceable.creatable with ⟨made, folder, created, located, isPlace, free⟩
  have kept := (folders.of_ok created).file?_eq location
  cases course with
  | whole other bytes result same reads left told =>
      cases created.symm.trans same
      refine Or.inl ⟨bytes, reads, ?_⟩
      rw [left, FileTree.file?_put free, kept]
  | broken fault after same unread =>
      cases created.symm.trans same
      exact Or.inr ⟨unread, kept⟩

/-- A number that a delivery tells is the length of the file. -/
theorem length_eq (course : Replacement files path place content result)
    (replaceable : files.IsReplaceable path place) {size : Nat} {after : Transfer FileTree}
    (told : result = .ok size after) :
    exists bytes, after.place.file? place = some bytes ∧ size = bytes.length := by
  rcases replaceable.creatable with ⟨made, folder, created, located, isPlace, free⟩
  cases course with
  | whole other bytes result same reads left tells =>
      cases created.symm.trans same
      refine ⟨bytes, ?_, tells size after told⟩
      rw [told] at left
      rw [show after.place = made.put place (.file bytes) from left, FileTree.file?_put free,
        if_pos rfl]
  | broken fault after same unread => cases told

end Replacement

/-! ## One delivery after another -/

/-- The files after contents were delivered to one of them, the first content first. -/
def replaced (path : Path) (files : FileTree) (contents : List Content) : FileTree :=
  contents.foldl (fun files content => (stateOf (deliverToFile path ⟨content, files⟩)).place) files

theorem replaced_concat (path : Path) (files : FileTree) (contents : List Content)
    (content : Content) :
    replaced path files (contents ++ [content]) =
      (stateOf (deliverToFile path ⟨content, replaced path files contents⟩)).place := by
  unfold replaced
  rw [List.foldl_append]
  rfl

/-- The bytes of the last content that was read to its end, if there was one. -/
inductive LastRead (path : Path) (files : FileTree) : List Content -> Option Bytes -> Prop where
  | nothing : LastRead path files [] none
  | whole {contents : List Content} {content : Content} {last : Option Bytes} {bytes : Bytes}
      (before : LastRead path files contents last)
      (reads : ReadsToEnd path (replaced path files contents) content bytes) :
      LastRead path files (contents ++ [content]) (some bytes)
  | broken {contents : List Content} {content : Content} {last : Option Bytes}
      (before : LastRead path files contents last)
      (unread : forall bytes, ¬ ReadsToEnd path (replaced path files contents) content bytes) :
      LastRead path files (contents ++ [content]) last

/-- What deliveries to one file leave alone. -/
theorem replaced_keeps (replaceable : files.IsReplaceable path place) {contents : List Content}
    (streams : forall content, content ∈ contents -> content.IsStream) :
    (replaced path files contents).IsReplaceable path place ∧
      (replaced path files contents).drafts = files.drafts ∧
      forall other, other ≠ place -> (replaced path files contents).file? other = files.file? other := by
  induction contents using List.reverseRecOn with
  | nil => exact ⟨replaceable, rfl, fun _ _ => rfl⟩
  | append_singleton contents content inductionHypothesis =>
      rcases inductionHypothesis fun earlier member =>
        streams earlier (List.mem_append_left _ member) with ⟨still, drafts, others⟩
      have course := replacement still
        (streams content (List.mem_append_right _ (List.mem_singleton.mpr rfl)))
      rw [replaced_concat]
      refine ⟨course.isReplaceable still, course.drafts_eq.trans drafts, fun other elsewhere => ?_⟩
      rcases course.file?_eq still other with ⟨bytes, _, found⟩ | ⟨_, found⟩
      · rw [found, if_neg elsewhere, others other elsewhere]
      · rw [found, others other elsewhere]

/-- The file holds the last content that was read to its end. -/
theorem replaced_file? (replaceable : files.IsReplaceable path place) {contents : List Content}
    (streams : forall content, content ∈ contents -> content.IsStream) :
    exists last, LastRead path files contents last ∧
      (replaced path files contents).file? place = last.or (files.file? place) := by
  induction contents using List.reverseRecOn with
  | nil => exact ⟨none, .nothing, rfl⟩
  | append_singleton contents content inductionHypothesis =>
      have earlier : forall content, content ∈ contents -> content.IsStream := by
        intro content member
        exact streams content (List.mem_append_left _ member)
      rcases inductionHypothesis earlier with ⟨last, before, held⟩
      have still := (replaced_keeps replaceable earlier).1
      have course := replacement still
        (streams content (List.mem_append_right _ (List.mem_singleton.mpr rfl)))
      rw [replaced_concat]
      rcases course.file?_eq still place with ⟨bytes, reads, found⟩ | ⟨unread, found⟩
      · refine ⟨some bytes, .whole before reads, ?_⟩
        rw [found, if_pos rfl]
        rfl
      · exact ⟨last, .broken before unread, found.trans held⟩

/-- Streams are delivered to a file, one after another.  After each of them the file holds all of the last
one that was read to its end, or what it held at first if there was none; no draft is left, and every
other file is as it was.  When a delivery tells a number, that is the length of the file. -/
theorem replacement_all_or_nothing (replaceable : files.IsReplaceable path place)
    (contents : List Content) (streams : forall content, content ∈ contents -> content.IsStream) :
    (exists last, LastRead path files contents last ∧
      (replaced path files contents).file? place = last.or (files.file? place)) ∧
    (replaced path files contents).drafts = files.drafts ∧
    (forall other, other ≠ place ->
      (replaced path files contents).file? other = files.file? other) ∧
    forall content, content.IsStream -> forall size after,
      deliverToFile path ⟨content, replaced path files contents⟩ = .ok size after ->
      exists bytes, after.place.file? place = some bytes ∧ size = bytes.length := by
  rcases replaced_keeps replaceable streams with ⟨still, drafts, others⟩
  refine ⟨replaced_file? replaceable streams, drafts, others, fun content stream size after told => ?_⟩
  exact (replacement still stream).length_eq still told

/-- A file that holds one byte. -/
def outFiles : FileTree where
  entries :=
    [(Location.working ++ ["out"], .folder), (Location.working ++ ["out", "f"], .file [1])]

/-- A stream that breaks, one that is read to its end and then refuses to be closed, and another one that
breaks. -/
def unsteady : List Content :=
  [.raw { rest := [4], failure := some (.system .connection "reset") },
    .raw { rest := [2, 3], readCap := some 1, closeFault := some (.system .connection "reset") },
    .raw { rest := [5], failure := some (.system .connection "reset") }]

/-- The second of the streams is kept although its delivery fails, and the next number is the length of
the file. -/
theorem replacement_all_or_nothing_unsteady :
    outFiles.IsReplaceable ⟨"", ["out", "f"]⟩ (Location.working ++ ["out", "f"]) ∧
      LastRead ⟨"", ["out", "f"]⟩ outFiles unsteady (some [2, 3]) ∧
      (replaced ⟨"", ["out", "f"]⟩ outFiles unsteady).file? (Location.working ++ ["out", "f"]) =
        some [2, 3] ∧
      (replaced ⟨"", ["out", "f"]⟩ outFiles unsteady).drafts = [] := by
  have folder : outFiles.isFolder (Path.parent ⟨"", ["out", "f"]⟩) = true := by decide +kernel
  have creatable := FileTree.ensureFolders_of_isFolder folder
  have replaceable :
      outFiles.IsReplaceable ⟨"", ["out", "f"]⟩ (Location.working ++ ["out", "f"]) :=
    ⟨by decide +kernel,
      ⟨outFiles, Location.working ++ ["out"], creatable, rfl, rfl, by decide +kernel⟩,
      by decide, by decide +kernel⟩
  have streams : forall content, content ∈ unsteady -> content.IsStream := by
    intro content member
    rcases content with body | stream
    · exact ⟨body, false, .asServed⟩
    · simp [unsteady] at member
  have found : (replaced ⟨"", ["out", "f"]⟩ outFiles unsteady).file?
      (Location.working ++ ["out", "f"]) = some [2, 3] := by decide +kernel
  rcases replacement_all_or_nothing replaceable unsteady streams with
    ⟨⟨last, read, held⟩, drafts, others, lengths⟩
  refine ⟨replaceable, ?_, found, drafts⟩
  rw [found] at held
  cases last with
  | none =>
      have initial : outFiles.file? (Location.working ++ ["out", "f"]) = some [1] := by decide +kernel
      rw [initial] at held
      cases held
  | some bytes =>
      cases held
      exact read

/-- A path that leaves a folder again, before the name of that folder. -/
def turningBack : Path := ⟨"", ["a", "..", "a"]⟩

/-- Nothing is there, so where the path leads there is no folder, and the folder of the file can be
made.  But that makes a folder where the file is to be put.  The stream is read to its end, and there is
still no file. -/
theorem read_but_not_replaced :
    (exists made, ({} : FileTree).ensureFolders turningBack.parent = .ok () made) ∧
      ({} : FileTree).isFolder turningBack = false ∧
      ({} : FileTree).node? (Location.working ++ ["a"]) = none ∧
      ReadsToEnd turningBack {} (.raw (.ofBytes [97, 98])) [97, 98] ∧
      (stateOf (deliverToFile turningBack ⟨.raw (.ofBytes [97, 98]), {}⟩)).place.locate turningBack =
        .ok (Location.working ++ ["a"]) ∧
      (stateOf (deliverToFile turningBack ⟨.raw (.ofBytes [97, 98]), {}⟩)).place.node?
        (Location.working ++ ["a"]) = some .folder := by
  have begins : exists draft made, openDraft turningBack {} = .ok draft made :=
    ⟨_, _, by with_unfolding_all rfl⟩
  have live : (Body.ofBytes [97, 98]).IsLive := ⟨rfl, fun cap impossible => by cases impossible⟩
  refine ⟨?_, by decide +kernel, by decide, ⟨begins, _, Content.reads_raw live⟩,
    by with_unfolding_all rfl, by decide +kernel⟩
  rcases begins with ⟨draft, made, begins⟩
  rcases FileTree.openDraft_eq_ok_iff.mp begins with ⟨_, folders, ensured, _⟩
  exact ⟨folders, ensured⟩

/-- A file whose path is longer than a path may be is never replaced, whatever was read. -/
theorem file?_of_overlong (overlong : maxPathSize < path.text.utf8ByteSize) (content : Content)
    (files : FileTree) (location : Location) :
    (stateOf (deliverToFile path ⟨content, files⟩)).place.file? location = files.file? location := by
  have opening := openDraft_ends path files
  unfold deliverToFile
  cases opened : openDraft path files with
  | error fault made => exact (opening.of_error opened).1.file?_eq location
  | ok draft made =>
      have only := (opening.of_ok opened).1
      have filled : (stateOf (fillDraft path draft ⟨content, made⟩)).place = made.discardDraft := by
        unfold fillDraft
        cases collect content with
        | error fault after => rfl
        | ok bytes after =>
            have refused : made.publish { draft with content := bytes } path = .error .nameTooLong := by
              unfold FileTree.publish FileTree.locate
              rw [if_pos overlong]
              rfl
            dsimp only
            rw [refused]
            rfl
      dsimp only
      rw [Transfer.closing_place, filled]
      exact only.file?_eq location

end Sink
end ObjectWatch
