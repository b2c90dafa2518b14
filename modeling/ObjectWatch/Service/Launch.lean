import ObjectWatch.Service.Basic
import ObjectWatch.Service.Exit
import ObjectWatch.Settings.Sources

/-!
# Running the service as a program

The program reads its settings, prepares the service, runs it, and exits with a status: 2 when the
configuration is at fault, 1 when the service gave up or failed, and 0 otherwise.  Stopping by a
signal or from the keyboard is no failure.

What is noted is logged from the level on that the settings ask for.  Settings that are rejected say
nothing about the log yet, and the notice of that goes to the early log, which takes everything.

What is rendered from a record is left out: the time stamp, the name of the logger in front of the
event, the order of the details, and the colours and columns of the console.
-/

namespace ObjectWatch

open EnvFile (Environment)

/-- What a run of the program leaves behind. -/
structure Outcome where
  exit : ExitStatus
  /-- What was noted before the log was set up. -/
  early : List Notice := []
  /-- What was logged. -/
  logged : List Notice := []
  form : LogForm := .json
  calls : List Call := []
  storage : Storage := {}

namespace Outcome

/-- The number of lines that the console shows, one for every notice. -/
def consoleLines (outcome : Outcome) : Nat :=
  match outcome.form with
  | .json => 0
  | .console => outcome.logged.length

/-- The notices that are logged as records. -/
def records (outcome : Outcome) : List Record :=
  match outcome.form with
  | .json => outcome.logged.map Notice.record
  | .console => []

end Outcome

namespace Service

/-- Whether a notice is logged under the settings. -/
def logs (settings : Settings) (notice : Notice) : Bool :=
  settings.level.rank ≤ notice.record.level.rank

/-- What a service leaves behind when the program exits. -/
def outcome (service : Service) (exit : ExitStatus) : Outcome :=
  { exit
    logged := service.around.journal.notices.filter (logs service.settings)
    form := service.settings.form
    calls := service.around.journal.calls
    storage := service.storage }

/-- The status of a service that was not interrupted by a failure. -/
def status (service : Service) : ExitStatus := .ofSuccess (!service.failed)

/-- What a service leaves behind after a last notice. -/
def outcomeAfter (service : Service) (notice : Notice) (exit : ExitStatus) : Outcome :=
  outcome { service with around := service.around.note notice } exit

/-- How the program ends after a failure. -/
def outcomeOf (service : Service) (failure : Failure) : Outcome :=
  match failure.report with
  | .foreign (.keyboard _) => service.outcomeAfter .interrupted service.status
  | .foreign (.exit message) => service.outcome (.requested message)
  | .watch error =>
      if error.kind = .configuration then
        service.outcomeAfter (.configurationRefused error) (.code 2)
      else service.outcomeAfter (.serviceFailed (.watch error)) (.code 1)
  | report => service.outcomeAfter (.serviceFailed report) (.code 1)

/-- Prepare and run. -/
def perform : Serving Unit := do
  prepare
  run

/-- The service that a program with the given settings starts with. -/
def ofSettings (settings : Settings) (environment : Environment) (remote : Remote)
    (stopper : Stopper) (storage : Storage) (clock : Clock := {}) : Service :=
  { settings, environment, storage, around := { remote, clock, stopper } }

/-- Run the program with a remote side, the places to write to and a clock.  It is stopped by the given
signal. -/
def launch (sources : Sources) (remote : Remote) (signal : Nat) (storage : Storage)
    (clock : Clock := {}) : Outcome :=
  match sources.settings with
  | .error rejection => { exit := .code 2, early := [.settingsRejected rejection], storage }
  | .ok settings =>
      match perform (ofSettings settings sources.environment remote (.signal signal) storage clock) with
      | .ok () service => service.outcome service.status
      | .error failure service => service.outcomeOf failure

end Service
end ObjectWatch
