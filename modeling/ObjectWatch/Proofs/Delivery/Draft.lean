import ObjectWatch.Delivery.Sink
import ObjectWatch.Proofs.Attempt

/-!
# Beginning a draft touches no file

Before content is copied, the folder of the target is made and a draft is begun in it.  Folders are only
made where nothing was, so every file and every folder that was there is still there, and the draft is
new.  Whatever goes wrong is a fault of the operating system, unless the path holds a zero character.
-/

namespace ObjectWatch

/-! ## Paths without a zero character -/

namespace Path

/-- A zero character ends a name for the operating system, so no file has a path that holds one. -/
def IsPlain (path : Path) : Prop := '\x00' ∉ path.text.toList

theorem text_single (root name : String) : text ⟨root, [name]⟩ = root ++ name := by
  rw [text, if_neg (fun both => List.cons_ne_nil _ _ both.2), String.intercalate_singleton]

theorem text_concat (root : String) {names : List String} (nonempty : names ≠ []) (name : String) :
    text ⟨root, names ++ [name]⟩ = text ⟨root, names⟩ ++ "/" ++ name := by
  rw [text, if_neg (fun both => List.append_ne_nil_of_left_ne_nil nonempty [name] both.2),
    text, if_neg (fun both => nonempty both.2),
    String.intercalate_append_of_ne_nil nonempty (List.cons_ne_nil _ _), String.intercalate_singleton]
  simp only [String.append_assoc]

theorem IsPlain.parent {path : Path} (plain : path.IsPlain) : path.parent.IsPlain := by
  intro zero
  refine plain ?_
  rcases path with ⟨root, names⟩
  rcases List.eq_nil_or_concat names with rfl | ⟨folders, last, split⟩
  · exact zero
  · rw [List.concat_eq_append] at split
    subst split
    have shorter : Path.parent ⟨root, folders ++ [last]⟩ = ⟨root, folders⟩ := by
      rw [Path.parent, List.dropLast_concat]
    rw [shorter] at zero
    by_cases alone : folders = []
    · subst alone
      rw [List.nil_append, text_single, String.toList_append]
      refine List.mem_append_left _ ?_
      rw [text] at zero
      split at zero
      · exact absurd zero (by decide)
      · rwa [String.intercalate_nil, String.append_empty] at zero
    · rw [text_concat root alone, String.append_assoc, String.toList_append]
      exact List.mem_append_left _ zero

theorem IsPlain.name {path : Path} (plain : path.IsPlain) : '\x00' ∉ path.name.toList := by
  intro zero
  refine plain ?_
  rcases path with ⟨root, names⟩
  rcases List.eq_nil_or_concat names with rfl | ⟨folders, last, split⟩
  · cases zero
  · rw [List.concat_eq_append] at split
    subst split
    have ending : Path.name ⟨root, folders ++ [last]⟩ = last := by
      rw [Path.name, List.getLast?_concat, Option.getD_some]
    rw [ending] at zero
    by_cases alone : folders = []
    · subst alone
      rw [List.nil_append, text_single, String.toList_append]
      exact List.mem_append_right _ zero
    · rw [text_concat root alone, String.toList_append]
      exact List.mem_append_right _ zero

end Path

namespace FileTree

/-! ## Making folders -/

/-- Nothing was done to a tree but to make folders where nothing was. -/
structure OnlyFolders (before after : FileTree) : Prop where
  drafts : after.drafts = before.drafts
  size : after.workingSize = before.workingSize
  nodes : forall location, after.node? location = before.node? location ∨
    before.node? location = none ∧ after.node? location = some .folder

namespace OnlyFolders

variable {before middle after : FileTree}

protected theorem refl (tree : FileTree) : OnlyFolders tree tree := ⟨rfl, rfl, fun _ => .inl rfl⟩

theorem trans (first : OnlyFolders before middle) (second : OnlyFolders middle after) :
    OnlyFolders before after := by
  refine ⟨second.drafts.trans first.drafts, second.size.trans first.size, fun location => ?_⟩
  rcases first.nodes location with same | ⟨nothing, folder⟩
  · rw [← same]
    exact second.nodes location
  · rcases second.nodes location with same | ⟨impossible, _⟩
    · exact .inr ⟨nothing, same.trans folder⟩
    · rw [folder] at impossible
      cases impossible

/-- No file has appeared, changed or gone. -/
theorem file_iff (only : OnlyFolders before after) (location : Location) (content : Bytes) :
    after.node? location = some (.file content) ↔ before.node? location = some (.file content) := by
  rcases only.nodes location with same | ⟨nothing, folder⟩
  · rw [same]
  · rw [nothing, folder]
    constructor <;> (intro impossible; cases impossible)

end OnlyFolders

variable {tree after : FileTree} {path : Path}

/-- A folder is made where nothing is. -/
theorem makeFolder_eq_ok_iff :
    tree.makeFolder path = .ok after ↔ exists location, tree.locate path = .ok location ∧
      tree.node? location = none ∧ after = tree.put location .folder := by
  unfold makeFolder
  cases located : tree.locate path with
  | error error =>
      refine ⟨fun made => (by cases made), ?_⟩
      rintro ⟨location, impossible, _⟩
      cases impossible
  | ok location =>
      cases found : tree.node? location with
      | some node =>
          simp only [bind, Except.bind, found]
          refine ⟨fun made => (by cases made), ?_⟩
          rintro ⟨other, same, nothing, _⟩
          cases same
          rw [found] at nothing
          cases nothing
      | none =>
          simp only [bind, Except.bind, found]
          constructor
          · intro made
            cases made
            exact ⟨location, rfl, found, rfl⟩
          · rintro ⟨other, same, _, rfl⟩
            cases same
            rfl

/-- Where no folder is, something can be put. -/
theorem proper_of_node?_ne_folder {location : Location} (other : tree.node? location ≠ some .folder) :
    location.names ≠ [] := by
  intro isOrigin
  exact other (if_pos isOrigin)

theorem onlyFolders_makeFolder (made : tree.makeFolder path = .ok after) : OnlyFolders tree after := by
  rcases makeFolder_eq_ok_iff.mp made with ⟨location, _, nothing, rfl⟩
  have proper := @proper_of_node?_ne_folder tree location (by
    rw [nothing]
    exact fun impossible => by cases impossible)
  refine ⟨rfl, rfl, fun other => ?_⟩
  rw [node?_put location other .folder tree proper]
  by_cases same : other = location
  · rw [if_pos same, same]
    exact .inr ⟨nothing, rfl⟩
  · rw [if_neg same]
    exact .inl rfl

theorem onlyFolders_ensureFolder (made : tree.ensureFolder path = .ok after) :
    OnlyFolders tree after := by
  unfold ensureFolder at made
  split at made
  · cases made
    exact onlyFolders_makeFolder (by assumption)
  · split at made
    · cases made
      exact .refl tree
    · cases made

/-- Folders that were made stay, also when one of them cannot be made. -/
theorem ensureFolders_ends (tree : FileTree) (path : Path) :
    Ends (tree.ensureFolders path) (fun _ after => OnlyFolders tree after)
      (fun _ after => OnlyFolders tree after) := by
  induction path using ensureFolders.induct tree with
  | case1 path made ensured =>
      rw [ensureFolders, ensured]
      exact onlyFolders_ensureFolder ensured
  | case2 path error refused other =>
      rw [ensureFolders, refused]
      dsimp only
      rw [if_pos other]
      exact .refl tree
  | case3 path error refused missing empty =>
      rw [ensureFolders, refused]
      dsimp only
      rw [if_neg missing, if_pos empty]
      exact .refl tree
  | case4 path error refused missing nonempty failure made failed inductionHypothesis =>
      rw [failed] at inductionHypothesis
      rw [ensureFolders, refused]
      dsimp only
      rw [if_neg missing, if_neg nonempty, failed]
      exact inductionHypothesis
  | case5 path error refused missing nonempty made ensured last retried inductionHypothesis =>
      rw [ensured] at inductionHypothesis
      rw [ensureFolders, refused]
      dsimp only
      rw [if_neg missing, if_neg nonempty, ensured]
      dsimp only
      rw [retried]
      exact inductionHypothesis.trans (onlyFolders_ensureFolder retried)
  | case6 path error refused missing nonempty made ensured last retried inductionHypothesis =>
      rw [ensured] at inductionHypothesis
      rw [ensureFolders, refused]
      dsimp only
      rw [if_neg missing, if_neg nonempty, ensured]
      dsimp only
      rw [retried]
      exact inductionHypothesis

/-! ## Drafts -/

/-- A draft is new, and beginning it fails like an operation on files, or because the path holds a zero
character. -/
theorem beginDraft_ends (tree : FileTree) (path : Path) :
    match tree.beginDraft path with
    | .ok (draft, after) => after = { tree with drafts := draft :: tree.drafts }
    | .error fault => fault.spoilsOpening = true ∨ ¬ path.IsPlain ∧ fault = embeddedZero := by
  unfold beginDraft
  cases tree.locate path.parent with
  | error error => exact .inl rfl
  | ok folder =>
      dsimp only
      by_cases zero : '\x00' ∈ path.name.toList
      · rw [if_pos zero]
        exact .inr ⟨fun plain => plain.name zero, rfl⟩
      · rw [if_neg zero]
        by_cases tooLong : maxNameSize < Draft.nameSize ⟨folder, path.name, []⟩ ∨
            maxPathSize < Draft.size tree.workingSize ⟨folder, path.name, []⟩
        · rw [if_pos tooLong]
          exact .inl rfl
        · rw [if_neg tooLong]

end FileTree

/-- Making the folder of a file and beginning a draft in it. -/
theorem Sink.openDraft_ends (path : Path) (files : FileTree) :
    Ends (openDraft path files)
      (fun draft after => files.OnlyFolders after.discardDraft ∧
        after = { after.discardDraft with drafts := draft :: files.drafts })
      (fun fault after => files.OnlyFolders after ∧
        (fault.spoilsOpening = true ∨ ¬ path.IsPlain ∧ fault = embeddedZero)) := by
  have folders := files.ensureFolders_ends path.parent
  unfold openDraft
  by_cases zero : '\x00' ∈ path.parent.text.toList
  · rw [if_pos zero]
    exact ⟨.refl files, .inr ⟨fun plain => plain.parent zero, rfl⟩⟩
  · rw [if_neg zero]
    cases ensured : files.ensureFolders path.parent with
    | error failure made =>
        exact ⟨folders.of_error ensured, .inl rfl⟩
    | ok _ made =>
        have only := folders.of_ok ensured
        have begins := made.beginDraft_ends path
        dsimp only
        cases begun : made.beginDraft path with
        | error fault =>
            rw [begun] at begins
            exact ⟨only, begins⟩
        | ok both =>
            rw [begun] at begins
            rcases both with ⟨draft, after⟩
            dsimp only at begins ⊢
            subst begins
            exact ⟨only, by rw [← only.drafts]; rfl⟩

end ObjectWatch
