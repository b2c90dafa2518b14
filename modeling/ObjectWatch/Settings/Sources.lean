import ObjectWatch.EnvFile.Expansion
import ObjectWatch.Settings.Basic
import ObjectWatch.Settings.Reading

/-!
# Where settings come from

Settings come from three sources: arguments, the environment of the process, and environment files.
For every field the first source that has it decides.  Of several variables with the same name the
last one counts, and of several arguments the first one.

A variable of a file that was written without a value says nothing, but it still hides the variable
of that name in the files before.
-/

namespace ObjectWatch

open EnvFile (Environment Assignments)

/-- Where settings come from. -/
structure Sources where
  arguments : List (String × Value) := []
  environment : Environment := []
  /-- The texts of the environment files, the most important one last. -/
  files : List String := []
  reading : Reading := {}

namespace Sources

/-- The sources of a program that is called with arguments, among the files that there are. -/
def ofArguments (arguments : List (String × Value)) (environment : Environment)
    (files : List (Path × String)) : Except ReadingError Sources := do
  let reading <- Reading.ofArguments arguments
  let files <- Reading.fileTexts arguments files
  return { arguments, environment, files, reading }

/-- The values of the environment files. -/
def fileValues (sources : Sources) : List Assignments :=
  sources.files.map (EnvFile.assignments sources.environment)

/-- The first argument for a field. -/
def argument? (sources : Sources) (field : String) : Option Value :=
  (sources.arguments.find? fun entry => sources.reading.compared entry.1 == field).map Prod.snd

/-- The last variable for a field.  It may be a variable that was written without a value. -/
def assigned? (reading : Reading) (field : String) (table : Assignments) :
    Option (Option String) :=
  (table.reverse.find? fun (name, value) =>
    reading.names field name && !(reading.skipsEmpty && value == some "")).map Prod.snd

/-- The text that the environment or the files give to a field. -/
def text? (sources : Sources) (fileValues : List Assignments) (field : String) : Option String :=
  let environment : Assignments := sources.environment.map fun (name, text) => (name, some text)
  ((environment :: fileValues.reverse).findSome? (assigned? sources.reading field)).join

/-- The value that the sources give to a field. -/
def value? (sources : Sources) (fileValues : List Assignments) (field : String) : Option Value :=
  match sources.argument? field with
  | some value => some value
  | none => (sources.text? fileValues field).map sources.reading.value

/-- The fields that the sources give. -/
def fields (sources : Sources) : List (String × Value) :=
  let fileValues := sources.fileValues
  Settings.fieldNames.filterMap fun name =>
    (sources.value? fileValues name).map fun value => (name, value)

/-- The settings that the sources give. -/
def settings (sources : Sources) : Except Rejection Settings :=
  Settings.ofFields sources.fields

/-- The settings of a program that reads them once and keeps them: settings that are kept already are
not read again, whatever the sources say by now. -/
def settingsOnce (kept : Option Settings) (sources : Sources) : Except Rejection Settings :=
  match kept with
  | some settings => .ok settings
  | none => sources.settings

end Sources
end ObjectWatch
