/-!
# Paths

A path is written as names separated by slashes.  Empty names and the name `.` say nothing and are
left out when a path is read, so a path has one form: an optional root and the remaining names.  The
name `..` stays, because what it means depends on where the path leads.
-/

namespace ObjectWatch

/-- A path. -/
structure Path where
  /-- The slashes that make the path begin at the root; a path without them begins at the working
  directory. -/
  root : String := ""
  names : List String
deriving DecidableEq, Repr

namespace Path

/-- The slashes that stand for the root.  Exactly two of them are kept apart from one. -/
def rootOf : List Char -> String
  | '/' :: '/' :: '/' :: _ => "/"
  | '/' :: '/' :: _ => "//"
  | '/' :: _ => "/"
  | _ => ""

/-- The path that a text writes. -/
def ofText (s : String) : Path :=
  { root := rootOf s.toList
    names := (s.splitOn "/").filter fun name => name ≠ "" ∧ name ≠ "." }

/-- The text of a path. -/
def text (path : Path) : String :=
  if path.root = "" ∧ path.names = [] then "."
  else path.root ++ "/".intercalate path.names

/-- The path without its last name. -/
def parent (path : Path) : Path := { path with names := path.names.dropLast }

/-- The last name, or nothing if there is none. -/
def name (path : Path) : String := path.names.getLast?.getD ""

end Path
end ObjectWatch
