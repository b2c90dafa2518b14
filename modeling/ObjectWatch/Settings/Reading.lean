import ObjectWatch.Delivery.Path
import ObjectWatch.Text.Encoding
import ObjectWatch.Text.Casing
import ObjectWatch.Value

/-!
# How the sources of settings are read

Arguments whose names begin with an underscore are no settings.  They say how the other sources are
read: whether names have to agree in their letter case, what stands in front of them, what an empty
value and the word for no value mean, which environment files there are, and under which encoding
they are read.

Where nothing else is said, names are compared in lower case, and one file is read in UTF-8.
-/

namespace ObjectWatch

/-- Why sources cannot be read. -/
inductive ReadingError where
  /-- What stands in front of names is no text. -/
  | notNamePrefix (kind : String)
  /-- The files are given by something that is neither a name nor a collection of names. -/
  | notFiles (kind : String)
  /-- A file is given by something that is no name. -/
  | notFile (kind : String)
  /-- The encoding is given by something that is no name. -/
  | notEncoding (kind : String)
  | unknownEncoding (name : String)
  /-- A file cannot be read under the encoding. -/
  | undecodable (error : DecodingError)
deriving DecidableEq, Repr

namespace ReadingError

/-- The name of the kind in messages. -/
def name : ReadingError -> String
  | unknownEncoding _ => "LookupError"
  | undecodable error => error.name
  | _ => "TypeError"

/-- The wording. -/
def message : ReadingError -> String
  | notNamePrefix kind => "object of type '" ++ kind ++ "' has no len()"
  | notFiles kind => "'" ++ kind ++ "' object is not iterable"
  | notFile kind => "expected str, bytes or os.PathLike object, not " ++ kind
  | notEncoding kind => "open() argument 'encoding' must be str or None, not " ++ kind
  | unknownEncoding name => "unknown encoding: " ++ name
  | undecodable error => error.message

end ReadingError

/-- How names and values are read. -/
structure Reading where
  /-- Whether names have to agree in their letter case. -/
  isCaseSensitive : Bool := false
  /-- What stands in front of the name of a field in the name of a variable. -/
  namePrefix : String := ""
  /-- Whether variables with an empty value are passed over. -/
  skipsEmpty : Bool := false
  /-- The word that stands for no value. -/
  nothing : Option String := none
deriving DecidableEq, Repr

namespace Reading

/-- A name as it is compared. -/
def compared (reading : Reading) (name : String) : String :=
  if reading.isCaseSensitive then name else Text.toLower name

/-- Whether a name is that of the variable for a field. -/
def names (reading : Reading) (field name : String) : Bool :=
  reading.compared name == reading.compared (reading.namePrefix ++ field)

/-- The value that a text spells. -/
def value (reading : Reading) (text : String) : Value :=
  if reading.nothing = some text then .null else .text text

/-- An argument that was given and says something. -/
def argument? (arguments : List (String × Value)) (name : String) : Option Value :=
  match arguments.lookup name with
  | some .null => none
  | found => found

/-- What stands in front of names. -/
def namePrefixOf : Option Value -> Except ReadingError String
  | none => .ok ""
  | some (.text s) => .ok s
  | some value => .error (.notNamePrefix value.kindName)

/-- The word that stands for no value.  Nothing but a text can be such a word. -/
def nothingOf : Option Value -> Option String
  | some (.text s) => some s
  | _ => none

/-- How arguments ask for names and values to be read. -/
def ofArguments (arguments : List (String × Value)) : Except ReadingError Reading := do
  let namePrefix <- namePrefixOf (argument? arguments "_env_prefix")
  return {
    isCaseSensitive := (argument? arguments "_case_sensitive").any Value.isYes
    namePrefix
    skipsEmpty := (argument? arguments "_env_ignore_empty").any Value.isYes
    nothing := nothingOf (argument? arguments "_env_parse_none_str") }

/-- The name of the environment file that is read unless other ones are named. -/
def defaultFile : String := ".env"

/-- The names of the environment files.  Of an object the names of its entries are taken. -/
def fileNames (arguments : List (String × Value)) : Except ReadingError (List Value) :=
  match arguments.lookup "_env_file" with
  | none => .ok [.text defaultFile]
  | some .null => .ok []
  | some (.text s) => .ok [.text s]
  | some (.list items) => .ok items
  | some (.object entries) => .ok (entries.map fun entry => .text entry.1)
  | some value => .error (.notFiles value.kindName)

/-- The encoding of the environment files. -/
def encoding (arguments : List (String × Value)) : Except ReadingError Encoding :=
  match argument? arguments "_env_file_encoding" with
  | none => .ok .utf8
  | some (.text s) =>
      if s = "" then .ok .utf8
      else
        match Encoding.ofName? s with
        | some encoding => .ok encoding
        | none => .error (.unknownEncoding s)
  | some value => if value.isYes then .error (.notEncoding value.kindName) else .ok .utf8

/-- The text of the file with a given name, if there is one.  The encoding does not matter as long as
there is no file. -/
def fileText (arguments : List (String × Value)) (files : List (Path × String)) (name : Value) :
    Except ReadingError (Option String) :=
  match name with
  | .text name =>
      match files.lookup (Path.ofText name) with
      | none => .ok none
      | some text => do
          match (<- encoding arguments).reread text with
          | .ok text => return some text
          | .error error => throw (.undecodable error)
  | value => .error (.notFile value.kindName)

/-- The texts of the environment files that arguments name, among the files that there are. -/
def fileTexts (arguments : List (String × Value)) (files : List (Path × String)) :
    Except ReadingError (List String) := do
  let names <- fileNames arguments
  return (<- names.mapM (fileText arguments files)).filterMap id

end Reading
end ObjectWatch
