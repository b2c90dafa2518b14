import ObjectWatch.Body
import ObjectWatch.Delivery.Path

/-!
# Files and folders

A file tree knows, for every location, whether there is a file or a folder.  A location lies below the
root or below the working directory.  The working directory is a folder in the root, under a name that is
not told, so the only way into it is a path that begins there.  Nothing depends on the name but the length
of a full path, and where a text shows the name there is a mark instead.

Beside the files that have a name there are drafts: files that are being written under a name of
their own in some folder.  A draft becomes the content of a named file all at once or is discarded,
and meanwhile no named file has changed.
-/

namespace ObjectWatch

/-- Where a way through folders begins. -/
inductive Location.Origin where
  | root
  | working
deriving DecidableEq, Repr

/-- Where a file or a folder is: the names that lead there from an origin. -/
structure Location where
  origin : Location.Origin
  names : List String := []
deriving DecidableEq, Repr

/-- Follow further names. -/
instance : HAppend Location (List String) Location where
  hAppend location names := { location with names := location.names ++ names }

namespace Location

/-- The location of the working directory. -/
def working : Location := { origin := .working }

/-- The text of a location. -/
def text (location : Location) : String :=
  match location.origin with
  | .root => "/" ++ "/".intercalate location.names
  | .working => "/".intercalate ("<tmp>" :: location.names)

/-- The folder that a file or a folder is in.  The root is in itself. -/
def parent (location : Location) : Location :=
  if location.names = [] then { origin := .root }
  else { location with names := location.names.dropLast }

/-- The bytes that names take, each with the slash in front of it. -/
def namesSize (names : List String) : Nat :=
  names.foldr (fun name size => name.utf8ByteSize + 1 + size) 0

/-- The bytes that the full path of a location takes, if that of the working directory takes the given
number. -/
def size (workingSize : Nat) (location : Location) : Nat :=
  match location.origin with
  | .root => namesSize location.names
  | .working => workingSize + namesSize location.names

/-- Where a path begins. -/
def start (path : Path) : Location := if path.root = "" then working else { origin := .root }

end Location

/-- What is found at a location. -/
inductive Node where
  | folder
  | file (content : Bytes)
deriving DecidableEq

/-- A file that is being written next to the files of a folder. -/
structure Draft where
  folder : Location
  /-- The name of the file that it is going to replace. -/
  target : String
  content : Bytes := []

namespace Draft

/-- A draft has a name of its own: that of its target after a point, with a random part and an
ending. -/
def name (target : String) : String := "." ++ target ++ ".RANDOM.tmp"

/-- The bytes that the name of a draft has more than that of its target. -/
def nameExcess : Nat := 14

/-- The bytes that the name of a draft takes. -/
def nameSize (draft : Draft) : Nat := draft.target.utf8ByteSize + nameExcess

/-- The bytes that the full path of a draft takes.  A draft is made under its full path, also where
the path that names the file begins at the working directory. -/
def size (workingSize : Nat) (draft : Draft) : Nat :=
  draft.folder.size workingSize + 1 + draft.nameSize

/-- The text of the location of a draft. -/
def text (draft : Draft) : String := Location.text (draft.folder ++ [name draft.target])

end Draft

/-- How an operation on files fails. -/
inductive FileError where
  | notFound
  | busy
  | alreadyExists
  | notDirectory
  | isDirectory
  | nameTooLong
deriving DecidableEq, Repr

namespace FileError

/-- The number of an error. -/
def number : FileError -> Nat
  | notFound => 2
  | busy => 16
  | alreadyExists => 17
  | notDirectory => 20
  | isDirectory => 21
  | nameTooLong => 36

/-- The wording of an error. -/
def wording : FileError -> String
  | notFound => "No such file or directory"
  | busy => "Device or resource busy"
  | alreadyExists => "File exists"
  | notDirectory => "Not a directory"
  | isDirectory => "Is a directory"
  | nameTooLong => "File name too long"

/-- The kind of fault that an error is told as. -/
def kind : FileError -> SystemKind
  | notFound => .notFound
  | alreadyExists => .alreadyExists
  | notDirectory => .notDirectory
  | isDirectory => .isDirectory
  | _ => .general

/-- The fault of an error about the shown paths. -/
def fault (error : FileError) (subject : String) : Fault :=
  .system error.kind ("[Errno " ++ toString error.number ++ "] " ++ error.wording ++ ": " ++ subject)

end FileError

/-- The fault of a path that holds a zero character. -/
def embeddedZero : Fault := .badValue "embedded null byte"

/-- The longest name in bytes. -/
def maxNameSize : Nat := 255

/-- The longest path in bytes. -/
def maxPathSize : Nat := 4095

/-- Files and folders. -/
structure FileTree where
  entries : List (Location × Node) := []
  drafts : List Draft := []
  /-- The bytes that the full path of the working directory takes. -/
  workingSize : Nat := 16

namespace FileTree

/-- What is found at a location. -/
def node? (tree : FileTree) (location : Location) : Option Node :=
  if location.names = [] then some .folder else tree.entries.lookup location

/-- Put a file or a folder at a location. -/
def put (location : Location) (node : Node) (tree : FileTree) : FileTree :=
  { tree with
    entries := (location, node) :: tree.entries.filter fun entry => entry.1 != location }

/-- The location that names lead to.  It need not exist, but everything on the way to it has to be a
folder. -/
def walk (tree : FileTree) : Location -> List String -> Except FileError Location
  | location, [] => .ok location
  | location, name :: names =>
      match tree.node? location with
      | none => .error .notFound
      | some (.file _) => .error .notDirectory
      | some .folder =>
          if name = ".." then tree.walk location.parent names
          else if maxNameSize < name.utf8ByteSize then .error .nameTooLong
          else tree.walk (location ++ [name]) names

/-- The location of a path. -/
def locate (tree : FileTree) (path : Path) : Except FileError Location :=
  if maxPathSize < path.text.utf8ByteSize then .error .nameTooLong
  else tree.walk (Location.start path) path.names

/-- Whether a path leads to a folder. -/
def isFolder (tree : FileTree) (path : Path) : Bool :=
  match tree.locate path with
  | .ok location => tree.node? location = some .folder
  | .error _ => false

/-- Make a folder where nothing is yet. -/
def makeFolder (tree : FileTree) (path : Path) : Except FileError FileTree := do
  let location <- tree.locate path
  match tree.node? location with
  | some _ => throw .alreadyExists
  | none => return tree.put location .folder

/-- Make a folder, unless it is there. -/
def ensureFolder (tree : FileTree) (path : Path) : Except FileError FileTree :=
  match tree.makeFolder path with
  | .ok tree => .ok tree
  | .error error => if tree.isFolder path then .ok tree else .error error

/-- Make a folder and the folders on the way to it, unless they are there.  An error comes with the
path that it is about and with the folders that were made before.  Each missing folder is made inside a
call for the one above it.  How deep calls may be nested is left out, so there is no limit to the number of
folders that are made at once. -/
def ensureFolders (tree : FileTree) (path : Path) : EStateM.Result (FileError × Path) FileTree Unit :=
  match tree.ensureFolder path with
  | .ok tree => .ok () tree
  | .error error =>
      if error ≠ .notFound then .error (error, path) tree
      else if path.names = [] then .error (error, path) tree
      else
        match tree.ensureFolders path.parent with
        | .error failure tree => .error failure tree
        | .ok () tree =>
            match tree.ensureFolder path with
            | .ok tree => .ok () tree
            | .error error => .error (error, path) tree
termination_by path.names.length
decreasing_by
  rename_i nonempty
  have positive := List.length_pos_iff.mpr nonempty
  simp only [Path.parent, List.length_dropLast]
  omega

/-- Begin a draft of the file that a path names. -/
def beginDraft (tree : FileTree) (path : Path) : Except Fault (Draft × FileTree) :=
  match tree.locate path.parent with
  | .error error => .error (error.fault (Text.quoted path.parent.text))
  | .ok folder =>
      let draft : Draft := { folder, target := path.name }
      if '\x00' ∈ path.name.toList then .error embeddedZero
      else if maxNameSize < draft.nameSize ∨ maxPathSize < draft.size tree.workingSize then
        .error (FileError.nameTooLong.fault (Text.quoted draft.text))
      else .ok (draft, { tree with drafts := draft :: tree.drafts })

/-- Discard the draft that was begun last. -/
def discardDraft (tree : FileTree) : FileTree := { tree with drafts := tree.drafts.tail }

/-- Let a draft take the place of the file that a path names. -/
def publish (tree : FileTree) (draft : Draft) (path : Path) : Except FileError FileTree := do
  let location <- tree.locate path
  if path.name = "" ∨ path.name = ".." then throw .busy
  match tree.node? location with
  | some .folder => throw .isDirectory
  | _ => return tree.discardDraft.put location (.file draft.content)

/-- The files and folders below the working directory with their paths, in the order of the paths. -/
def listing (tree : FileTree) : List (String × Node) :=
  let below := tree.entries.filterMap fun (location, node) =>
    match location.origin with
    | .root => none
    | .working => some ("/".intercalate location.names, node)
  below.mergeSort fun first second => decide (first.1 ≤ second.1)

/-- What was put at a location is found there, and nothing else changes. -/
theorem node?_put (location other : Location) (node : Node) (tree : FileTree)
    (proper : location.names ≠ []) :
    (tree.put location node).node? other = if other = location then some node else tree.node? other := by
  unfold node? put
  by_cases same : other = location
  · subst same
    simp [proper]
  · have differs : (other == location) = false := beq_eq_false_iff_ne.mpr same
    simp only [same, if_false, List.lookup_cons, differs]
    split
    · rfl
    · induction tree.entries with
      | nil => rfl
      | cons entry rest inductionHypothesis =>
          obtain ⟨first, old⟩ := entry
          by_cases here : first = location
          · subst here
            simp [List.lookup_cons, differs, inductionHypothesis]
          · by_cases found : other = first
            · subst found
              simp [here]
            · have apart : (other == first) = false := beq_eq_false_iff_ne.mpr found
              simp [here, List.lookup_cons, apart, inductionHypothesis]

end FileTree
end ObjectWatch
