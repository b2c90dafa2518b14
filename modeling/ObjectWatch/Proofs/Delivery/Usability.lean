import ObjectWatch.Proofs.Delivery.Draft

/-!
# A file that can be replaced stays so

A path is usable if a draft for it can be begun and published.  Whatever a delivery does, it leaves the
path usable: the folders that it made are found again, and where the file is put there was no folder.
Paths lead through folders only, so a tree in which no folder is lost is walked in the same way.
-/

namespace ObjectWatch
namespace FileTree

variable {tree after : FileTree} {path : Path}

/-- Every folder is still one. -/
def KeepsFolders (before after : FileTree) : Prop :=
  forall location, before.node? location = some .folder -> after.node? location = some .folder

theorem OnlyFolders.keepsFolders (only : tree.OnlyFolders after) : tree.KeepsFolders after := by
  intro location folder
  rcases only.nodes location with same | ⟨nothing, _⟩
  · rw [same, folder]
  · rw [nothing] at folder
    cases folder

/-! ## Finding what was found -/

/-- A way that leads on through a folder leads on in the same way in every tree where that is a folder. -/
theorem walk_cons_of_ok {location found : Location} {name : String} {names : List String}
    (walked : tree.walk location (name :: names) = .ok found) :
    tree.node? location = some .folder ∧ exists next, tree.walk next names = .ok found ∧
      forall other : FileTree, other.node? location = some .folder ->
        forall more, other.walk location (name :: more) = other.walk next more := by
  unfold walk at walked
  cases here : tree.node? location with
  | none =>
      rw [here] at walked
      cases walked
  | some node =>
      cases node with
      | file content =>
          rw [here] at walked
          cases walked
      | folder =>
          rw [here] at walked
          dsimp only at walked
          refine ⟨rfl, ?_⟩
          by_cases up : name = ".."
          · rw [if_pos up] at walked
            refine ⟨location.parent, walked, fun other isFolder more => ?_⟩
            rw [walk, isFolder]
            exact if_pos up
          · rw [if_neg up] at walked
            by_cases long : maxNameSize < name.utf8ByteSize
            · rw [if_pos long] at walked
              cases walked
            · rw [if_neg long] at walked
              refine ⟨location ++ [name], walked, fun other isFolder more => ?_⟩
              rw [walk, isFolder]
              dsimp only
              rw [if_neg up, if_neg long]

theorem walk_of_keeps (keeps : tree.KeepsFolders after) {names : List String}
    {location found : Location} (walked : tree.walk location names = .ok found) :
    after.walk location names = .ok found := by
  induction names generalizing location with
  | nil => exact walked
  | cons name names inductionHypothesis =>
      rcases walk_cons_of_ok walked with ⟨isFolder, next, rest, enters⟩
      rw [enters after (keeps location isFolder)]
      exact inductionHypothesis rest

theorem locate_of_keeps (keeps : tree.KeepsFolders after) {found : Location}
    (located : tree.locate path = .ok found) : after.locate path = .ok found := by
  unfold locate at located ⊢
  by_cases long : maxPathSize < path.text.utf8ByteSize
  · rw [if_pos long] at located
    cases located
  · rw [if_neg long] at located ⊢
    exact walk_of_keeps keeps located

/-- Drafts are on no way. -/
theorem keepsFolders_drafts (tree : FileTree) (drafts : List Draft) :
    tree.KeepsFolders { tree with drafts } := fun _ folder => folder

theorem isFolder_iff :
    tree.isFolder path = true ↔
      exists location, tree.locate path = .ok location ∧ tree.node? location = some .folder := by
  unfold isFolder
  cases located : tree.locate path with
  | error error => simp
  | ok location => simp

/-! ## Folders that are there are not made again -/

theorem ensureFolders_of_isFolder (folder : tree.isFolder path = true) :
    tree.ensureFolders path = .ok () tree := by
  rcases isFolder_iff.mp folder with ⟨location, located, found⟩
  have refused : tree.makeFolder path = .error .alreadyExists := by
    unfold makeFolder
    simp only [located, bind, Except.bind, found]
    rfl
  have ensured : tree.ensureFolder path = .ok tree := by
    unfold ensureFolder
    rw [refused]
    exact if_pos folder
  rw [ensureFolders, ensured]

theorem isFolder_of_ensureFolder (ensured : tree.ensureFolder path = .ok after) :
    after.isFolder path = true := by
  have keeps := (onlyFolders_ensureFolder ensured).keepsFolders
  unfold ensureFolder at ensured
  cases made : tree.makeFolder path with
  | error error =>
      rw [made] at ensured
      dsimp only at ensured
      by_cases folder : tree.isFolder path = true
      · rw [if_pos folder] at ensured
        cases ensured
        exact folder
      · rw [if_neg folder] at ensured
        cases ensured
  | ok other =>
      rw [made] at ensured
      cases ensured
      rcases makeFolder_eq_ok_iff.mp made with ⟨location, located, nothing, rfl⟩
      have proper := @proper_of_node?_ne_folder tree location (by
        rw [nothing]
        exact fun impossible => by cases impossible)
      refine isFolder_iff.mpr ⟨location, locate_of_keeps keeps located, ?_⟩
      rw [node?_put location location .folder tree proper, if_pos rfl]

theorem isFolder_of_ensureFolders (ensured : tree.ensureFolders path = .ok () after) :
    after.isFolder path = true := by
  rw [ensureFolders] at ensured
  split at ensured
  · rename_i made
    cases ensured
    exact isFolder_of_ensureFolder made
  · split at ensured
    · cases ensured
    · split at ensured
      · cases ensured
      · split at ensured
        · cases ensured
        · split at ensured
          · rename_i made
            cases ensured
            exact isFolder_of_ensureFolder made
          · cases ensured

/-! ## Usable paths -/

/-- A draft for the file can be begun and published. -/
def IsUsable (tree : FileTree) (path : Path) : Prop :=
  exists draft made published,
    Sink.openDraft path tree = .ok draft made ∧ made.publish draft path = .ok published

/-- The folder of the file is there, and where the file is to be put there is no folder. -/
structure IsPrepared (tree : FileTree) (path : Path) : Prop where
  plain : '\x00' ∉ path.parent.text.toList
  folder : tree.isFolder path.parent = true
  begins : exists draft begun, tree.beginDraft path = .ok (draft, begun)
  named : ¬ (path.name = "" ∨ path.name = "..")
  target : exists location, tree.locate path = .ok location ∧ tree.node? location ≠ some .folder

theorem beginDraft_eq_ok_iff {draft : Draft} :
    tree.beginDraft path = .ok (draft, after) ↔
      exists folder, tree.locate path.parent = .ok folder ∧ '\x00' ∉ path.name.toList ∧
        ¬ (maxNameSize < draft.nameSize ∨ maxPathSize < draft.size tree.workingSize) ∧
        draft = { folder, target := path.name } ∧
        after = { tree with drafts := draft :: tree.drafts } := by
  unfold beginDraft
  cases located : tree.locate path.parent with
  | error error =>
      refine ⟨fun begun => (by cases begun), ?_⟩
      rintro ⟨folder, impossible, _⟩
      cases impossible
  | ok folder =>
      dsimp only
      by_cases zero : '\x00' ∈ path.name.toList
      · rw [if_pos zero]
        refine ⟨fun begun => (by cases begun), ?_⟩
        rintro ⟨_, _, free, _⟩
        exact absurd zero free
      · rw [if_neg zero]
        by_cases long : maxNameSize < Draft.nameSize ⟨folder, path.name, []⟩ ∨
            maxPathSize < Draft.size tree.workingSize ⟨folder, path.name, []⟩
        · rw [if_pos long]
          refine ⟨fun begun => (by cases begun), ?_⟩
          rintro ⟨other, same, _, short, rfl, _⟩
          cases same
          exact absurd long short
        · rw [if_neg long]
          constructor
          · intro begun
            cases begun
            exact ⟨folder, rfl, zero, long, rfl, rfl⟩
          · rintro ⟨other, same, _, _, rfl, rfl⟩
            cases same
            rfl

theorem publish_eq_ok_iff {draft : Draft} :
    tree.publish draft path = .ok after ↔
      exists location, tree.locate path = .ok location ∧ ¬ (path.name = "" ∨ path.name = "..") ∧
        tree.node? location ≠ some .folder ∧
        after = tree.discardDraft.put location (.file draft.content) := by
  unfold publish
  cases located : tree.locate path with
  | error error =>
      refine ⟨fun published => (by cases published), ?_⟩
      rintro ⟨location, impossible, _⟩
      cases impossible
  | ok location =>
      simp only [bind, Except.bind]
      by_cases unnamed : path.name = "" ∨ path.name = ".."
      · rw [if_pos unnamed]
        refine ⟨fun published => (by cases published), ?_⟩
        rintro ⟨_, _, named, _⟩
        exact absurd unnamed named
      · rw [if_neg unnamed]
        simp only [pure, Except.pure]
        split
        · rename_i folder
          refine ⟨fun published => (by cases published), ?_⟩
          rintro ⟨other, same, _, free, _⟩
          cases same
          exact absurd folder free
        · rename_i free
          constructor
          · intro published
            cases published
            exact ⟨location, rfl, unnamed, free, rfl⟩
          · rintro ⟨other, same, _, _, rfl⟩
            cases same
            rfl

theorem openDraft_eq_ok_iff {draft : Draft} :
    Sink.openDraft path tree = .ok draft after ↔ '\x00' ∉ path.parent.text.toList ∧
      exists folders, tree.ensureFolders path.parent = .ok () folders ∧
        folders.beginDraft path = .ok (draft, after) := by
  unfold Sink.openDraft
  by_cases zero : '\x00' ∈ path.parent.text.toList
  · rw [if_pos zero]
    exact ⟨fun opened => (by cases opened), fun both => absurd zero both.1⟩
  · rw [if_neg zero]
    cases ensured : tree.ensureFolders path.parent with
    | error failure folders =>
        refine ⟨fun opened => (by cases opened), ?_⟩
        rintro ⟨_, _, impossible, _⟩
        cases impossible
    | ok value folders =>
        dsimp only
        constructor
        · intro opened
          cases begun : folders.beginDraft path with
          | error fault =>
              rw [begun] at opened
              cases opened
          | ok both =>
              rw [begun] at opened
              cases opened
              exact ⟨zero, folders, rfl, begun⟩
        · rintro ⟨_, other, same, begun⟩
          cases same
          rw [begun]

/-- What can be published does not depend on what it holds. -/
theorem IsPrepared.publish (prepared : tree.IsPrepared path) (draft : Draft) :
    exists published, tree.publish draft path = .ok published := by
  rcases prepared.target with ⟨location, located, free⟩
  exact ⟨_, publish_eq_ok_iff.mpr ⟨location, located, prepared.named, free, rfl⟩⟩

theorem IsPrepared.openDraft (prepared : tree.IsPrepared path) :
    exists draft, Sink.openDraft path tree = .ok draft { tree with drafts := draft :: tree.drafts } := by
  rcases prepared.begins with ⟨draft, begun, begins⟩
  have drafted : begun = { tree with drafts := draft :: tree.drafts } := by
    rcases beginDraft_eq_ok_iff.mp begins with ⟨_, _, _, _, _, same⟩
    exact same
  subst drafted
  exact ⟨draft, openDraft_eq_ok_iff.mpr
    ⟨prepared.plain, tree, ensureFolders_of_isFolder prepared.folder, begins⟩⟩

theorem IsPrepared.isUsable (prepared : tree.IsPrepared path) : tree.IsUsable path := by
  rcases prepared.openDraft with ⟨draft, opened⟩
  rcases prepared.target with ⟨location, located, free⟩
  exact ⟨draft, _, _, opened, publish_eq_ok_iff.mpr
    ⟨location, locate_of_keeps (keepsFolders_drafts tree _) located, prepared.named, free, rfl⟩⟩

/-- A tree stays prepared as long as no folder is lost and none comes to be where the file is put. -/
theorem IsPrepared.of_keeps (prepared : tree.IsPrepared path) (keeps : tree.KeepsFolders after)
    (size : after.workingSize = tree.workingSize)
    (free : forall location, tree.locate path = .ok location ->
      after.node? location ≠ some .folder) : after.IsPrepared path := by
  rcases isFolder_iff.mp prepared.folder with ⟨folder, located, found⟩
  rcases prepared.target with ⟨location, target, _⟩
  refine ⟨prepared.plain, ?_, ?_, prepared.named, location, locate_of_keeps keeps target,
    free location target⟩
  · exact isFolder_iff.mpr ⟨folder, locate_of_keeps keeps located, keeps folder found⟩
  · rcases prepared.begins with ⟨draft, begun, begins⟩
    rcases beginDraft_eq_ok_iff.mp begins with ⟨other, same, plain, short, drafted, _⟩
    rw [← size] at short
    exact ⟨draft, _, beginDraft_eq_ok_iff.mpr
      ⟨other, locate_of_keeps keeps same, plain, short, drafted, rfl⟩⟩

theorem IsPrepared.discardDraft (prepared : tree.IsPrepared path) :
    tree.discardDraft.IsPrepared path := by
  refine prepared.of_keeps (fun _ folder => folder) rfl fun location located => ?_
  rcases prepared.target with ⟨other, same, free⟩
  rw [located] at same
  cases same
  exact free

theorem IsPrepared.published (prepared : tree.IsPrepared path) {draft : Draft}
    (published : tree.publish draft path = .ok after) : after.IsPrepared path := by
  rcases publish_eq_ok_iff.mp published with ⟨location, located, _, free, rfl⟩
  have proper := proper_of_node?_ne_folder free
  have found := fun other => tree.discardDraft.node?_put location other (.file draft.content) proper
  refine prepared.of_keeps (fun other folder => ?_) rfl fun other same => ?_
  · rw [found other]
    by_cases here : other = location
    · subst here
      exact absurd folder free
    · rw [if_neg here]
      exact folder
  · rw [located] at same
    cases same
    rw [found location, if_pos rfl]
    exact fun impossible => by cases impossible

/-- Once the draft is begun, the tree is prepared. -/
theorem IsUsable.isPrepared (usable : tree.IsUsable path) {draft : Draft} {made : FileTree}
    (opened : Sink.openDraft path tree = .ok draft made) : made.IsPrepared path := by
  rcases usable with ⟨_, _, published, same, publishes⟩
  rw [opened] at same
  cases same
  rcases publish_eq_ok_iff.mp publishes with ⟨location, located, named, free, _⟩
  rcases openDraft_eq_ok_iff.mp opened with ⟨zero, folders, ensured, begun⟩
  rcases beginDraft_eq_ok_iff.mp begun with ⟨folder, found, plain, short, drafted, same⟩
  have keeps : folders.KeepsFolders made := same ▸ keepsFolders_drafts folders _
  have size : made.workingSize = folders.workingSize := by rw [same]
  rw [← size] at short
  rcases isFolder_iff.mp (isFolder_of_ensureFolders ensured) with
    ⟨parent, parentLocated, parentFound⟩
  refine ⟨zero, ?_, ?_, named, location, located, free⟩
  · exact isFolder_iff.mpr ⟨parent, locate_of_keeps keeps parentLocated, keeps parent parentFound⟩
  · exact ⟨draft, _, beginDraft_eq_ok_iff.mpr
      ⟨folder, locate_of_keeps keeps found, plain, short, drafted, rfl⟩⟩

end FileTree
end ObjectWatch
