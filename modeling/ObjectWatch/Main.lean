import ObjectWatch.Service.Launch
import ObjectWatch.Service.Checkup
import ObjectWatch.Value.Written

/-!
# The command line

The program reads its settings from the environment and an environment file from standard input, and
runs the service; with the word `check` it does a checkup instead.  No store is connected, so every
request fails and the service ends after the first poll: what is seen is how the settings are read,
which credentials are found, what is logged, and the status in the end.
-/

namespace ObjectWatch
namespace Main

open EnvFile (Environment)

/-- The names that the values of an environment file refer to. -/
def referencedNames (file : String) : List String :=
  (EnvFile.entries file).flatMap fun entry =>
    let value := entry.value.getD ""
    (EnvFile.pieces value.length value.toList).filterMap fun
      | .plain _ => none
      | .reference name _ => some name

/-- The names of the variables that can make a difference. -/
def variableNames (file : String) : List String :=
  Settings.fieldNames ++ Settings.fieldNames.map Text.toUpper ++ Credentials.accessKeyNames ++
    Credentials.secretKeyNames ++ [Credentials.sessionTokenName] ++ referencedNames file

/-- The sources of the settings. -/
def readSources : IO Sources := do
  let file <- (<- IO.getStdin).readToEnd
  let known <- (variableNames file).filterMapM fun name => do
    return (<- IO.getEnv name).map fun value => (name, value)
  return { environment := known, files := [file] }

/-- The number of the signal that asks a program to end. -/
def endingSignal : Nat := 15

/-- The status as the system knows it. -/
def statusOf : ExitStatus -> UInt32
  | .code n => n.toUInt32
  | .requested none => 0
  | .requested (some _) => 1

/-- Print notices, one record a line. -/
def printNotices (notices : List Notice) : IO Unit :=
  notices.forM fun notice => IO.eprintln notice.record.value.written

/-- Run the service. -/
def runService (sources : Sources) : IO UInt32 := do
  let outcome := Service.launch sources {} endingSignal {} .system
  printNotices (outcome.early ++ outcome.logged)
  (<- IO.getStdout).write ⟨outcome.storage.output.written.toArray⟩
  return statusOf outcome.exit

/-- Do a checkup. -/
def runCheckup (sources : Sources) : IO UInt32 := do
  let checkup := Checkup.ofSources sources {}
  IO.print checkup.text
  match checkup.exit with
  | .ok status => return statusOf status
  | .error fault =>
      IO.eprintln fault.message
      return 1

end Main
end ObjectWatch

/-- Run the service, or a checkup when the only argument is `check`. -/
def main (arguments : List String) : IO UInt32 := do
  let sources <- ObjectWatch.Main.readSources
  if arguments = ["check"] then ObjectWatch.Main.runCheckup sources
  else ObjectWatch.Main.runService sources
