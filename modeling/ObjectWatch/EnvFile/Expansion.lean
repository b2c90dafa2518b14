import ObjectWatch.EnvFile.Statement

/-!
# References inside values

A value may refer to other variables.  A reference names a variable in braces after a dollar sign,
and may give a default after `:-`.  It is looked up among the earlier entries of the file and then in
the environment of the process; an entry that was written without a value counts as empty.

The last assignment of a name decides its value, and the first one its place.
-/

namespace ObjectWatch
namespace EnvFile

/-- The variables of a process. -/
abbrev Environment := List (String × String)

/-- The values of an environment file. -/
abbrev Assignments := List (String × Option String)

/-- A piece of a value. -/
inductive Piece where
  | plain (c : Char)
  | reference (name : String) (default : String)

/-- A reference after its opening brace, up to and including the closing brace. -/
def scanReference (cs : List Char) : Scan Piece :=
  let isEnd := fun c => c == '\x7d'
  let name := String.ofList (cs.takeWhile fun c => !isEnd c && c != ':')
  match cs.dropWhile fun c => !isEnd c && c != ':' with
  | ':' :: '-' :: rest =>
      match rest.dropWhile (!isEnd ·) with
      | _ :: after =>
          some (.reference name (String.ofList (rest.takeWhile (!isEnd ·))), after)
      | [] => none
  | c :: after => if isEnd c then some (.reference name "", after) else none
  | [] => none

/-- The pieces of a value. -/
def pieces : (rounds : Nat) -> List Char -> List Piece
  | 0, _ => []
  | _, [] => []
  | rounds + 1, c :: rest =>
      match if c = '$' ∧ rest.head? = some '\x7b' then scanReference rest.tail else none with
      | some (piece, after) => piece :: pieces rounds after
      | none => .plain c :: pieces rounds rest

/-- The value of a variable, if it is known. -/
def lookup (environment : Environment) (earlier : Assignments) (name : String) :
    Option String :=
  match earlier.lookup name with
  | some value => some (value.getD "")
  | none => environment.lookup name

/-- What a piece stands for. -/
def Piece.expand (environment : Environment) (earlier : Assignments) : Piece -> String
  | .plain c => String.singleton c
  | .reference name default => (lookup environment earlier name).getD default

/-- A value with its references replaced. -/
def expand (environment : Environment) (earlier : Assignments) (value : String) : String :=
  String.join ((pieces value.length value.toList).map (Piece.expand environment earlier))

/-- Set a name to a value, in the place that the name has or at the end. -/
def assign (name : String) (value : Option String) : Assignments -> Assignments
  | [] => [(name, value)]
  | (other, old) :: rest =>
      if other = name then (name, value) :: rest else (other, old) :: assign name value rest

/-- The values that an environment file gives to its names. -/
def assignments (environment : Environment) (text : String) : Assignments :=
  (entries text).foldl
    (fun earlier entry =>
      assign entry.name (entry.value.map (expand environment earlier)) earlier)
    []

end EnvFile
end ObjectWatch
