import ObjectWatch.Settings.Basic
import ObjectWatch.Watcher.Failure
import ObjectWatch.Watcher.Progress
import ObjectWatch.Watcher.Tally
import ObjectWatch.Text.Part

/-!
# Notices

Everything of interest that the program does is noted in a log.  A notice says what happened; its
record is how that is logged: by which part of the program, how serious it is, under which event,
and with which details.  No notice holds a key or a token of credentials, only the name of their
source.
-/

namespace ObjectWatch

/-- The part of the program that notes something. -/
inductive Origin where
  | service
  | watcher
  | progress
  | store
deriving DecidableEq, Repr

namespace Origin

/-- The name of the log of a part. -/
def name : Origin -> String
  | service => "object_poller.standalone"
  | watcher => "object_poller.polling.fetcher"
  | progress => "object_poller.polling.session"
  | store => "object_poller.storage.s3"

end Origin

/-- What is noted. -/
inductive Notice where
  | buildingClient (region source : String) (embeddedCertificates : Bool)
  | watcherPrepared (bucket key region : String) (interval : Float) (source : String)
      (embeddedCertificates : Bool)
  | cancelling (key : String)
  | probeFailed (bucket key : String) (cause : Fault)
  | unchanged (key token : String)
  | changed (key token previous : String)
  | retrievalFailed (bucket key : String) (cause : Fault)
  | decodingDisabled (previous : DecodeState)
  | decodeFailed (key : String) (cause : Fault)
  | preparing
  | prepared (bucket key outputPath : String) (failureLimit : Nat)
  | loopStarted
  | pollingCancelled
  | pollFailed (report : Report) (failures : Nat)
  | writingFailed (report : Report) (failures : Nat)
  | limitReached (limit : Nat)
  | written (size : Nat) (token : String)
  | loopStopped (tally : Tally)
  | stopping
  | signalReceived (number : Nat)
  | settingsRejected (rejection : Rejection)
  | configurationRefused (error : WatchError)
  | interrupted
  | serviceFailed (report : Report)

/-- How a notice is logged. -/
structure Record where
  origin : Origin
  level : Level
  event : String
  details : List (String × Value)

namespace Notice

/-- What is noted when decoding is given up.  Only the first time is worth a notice. -/
def ofDisabling? (progress : Progress) : Option Notice :=
  if progress.mayDecode then some (decodingDisabled progress.decodeState) else none

/-- The details of a failure in the log of the service. -/
def failureDetails (report : Report) (failures : Nat) : List (String × Value) :=
  [("error", .text report.message),
    ("error_type", .text report.name),
    ("error_code", .ofText? report.code?),
    ("consecutive_failures", .int failures)]

/-- The details of a request that failed. -/
def requestDetails (bucket key : String) (cause : Fault) : List (String × Value) :=
  [("bucket", .text bucket), ("key", .text key), ("error", .text cause.message)]

/-- How a notice is logged. -/
def record : Notice -> Record
  | buildingClient region source embeddedCertificates =>
      ⟨.store, .debug, "Creating S3 client",
        [("region", .text region), ("credentials_source", .text source),
          ("embedded_cert", .bool embeddedCertificates)]⟩
  | watcherPrepared bucket key region interval source embeddedCertificates =>
      ⟨.watcher, .info, "Polling fetcher initialized",
        [("bucket", .text bucket), ("key", .text key), ("region", .text region),
          ("interval_seconds", .float interval), ("credentials_source", .text source),
          ("embedded_cert", .bool embeddedCertificates)]⟩
  | cancelling key =>
      ⟨.watcher, .info, "Cancelling polling fetcher", [("key", .text key)]⟩
  | probeFailed bucket key cause =>
      ⟨.watcher, .warning, "HEAD request failed", requestDetails bucket key cause⟩
  | unchanged key token =>
      ⟨.watcher, .debug, "Object unchanged", [("key", .text key), ("change_token", .text token)]⟩
  | changed key token previous =>
      ⟨.watcher, .info, "Object changed",
        [("key", .text key), ("change_token", .text token),
          ("previous_change_token", if previous = "" then .null else .text previous)]⟩
  | retrievalFailed bucket key cause =>
      ⟨.watcher, .warning, "GET request failed", requestDetails bucket key cause⟩
  | decodingDisabled previous =>
      ⟨.progress, .warning, "Disabling gzip decode fallback",
        [("previous_state", .text previous.name)]⟩
  | decodeFailed key cause =>
      ⟨.watcher, .warning, "Gzip decode failed",
        [("key", .text key), ("error", .text cause.message)]⟩
  | preparing =>
      ⟨.service, .info, "Initializing object poller in standalone mode", []⟩
  | prepared bucket key outputPath failureLimit =>
      ⟨.service, .info, "Standalone configuration",
        [("bucket", .text bucket), ("key", .text key),
          ("output_path", .text (if outputPath = "" then "<stdout>" else outputPath)),
          ("max_consecutive_failures", .int failureLimit)]⟩
  | loopStarted => ⟨.service, .info, "Starting polling loop", []⟩
  | pollingCancelled => ⟨.service, .info, "Polling cancelled", []⟩
  | pollFailed report failures =>
      ⟨.service, .error, "Fetch failed", failureDetails report failures⟩
  | writingFailed report failures =>
      ⟨.service, .error, "Writing update failed", failureDetails report failures⟩
  | limitReached limit =>
      ⟨.service, .error, "Too many consecutive failures, stopping", [("limit", .int limit)]⟩
  | written size token =>
      ⟨.service, .info, "Update written", [("size", .int size), ("change_token", .text token)]⟩
  | loopStopped tally =>
      ⟨.service, .info, "Polling loop stopped", [("metrics", .object tally.fields)]⟩
  | stopping => ⟨.service, .info, "Stopping object poller", []⟩
  | signalReceived number =>
      ⟨.service, .info, "Received signal, initiating shutdown", [("signal", .int number)]⟩
  | settingsRejected rejection =>
      ⟨.service, .error, "Invalid configuration", [("error", .text rejection.message)]⟩
  | configurationRefused error =>
      ⟨.service, .error, "Invalid configuration",
        [("error", .text error.message), ("field", .ofText? error.field)]⟩
  | interrupted => ⟨.service, .info, "Application interrupted by user", []⟩
  | serviceFailed report =>
      ⟨.service, .error, "Application failed", [("error", .text report.message)]⟩

end Notice

namespace Record

/-- A detail as it is logged, without the lines of a report on settings that describe its problems. -/
def shownDetail : Value -> Value
  | .text s => .text (Text.abridged s)
  | detail => detail

/-- A record as it is logged. -/
def value (record : Record) : Value :=
  .object (record.details.map (fun (name, detail) => (name, shownDetail detail)) ++
    [("event", .text record.event), ("level", .text record.level.name)])

end Record
end ObjectWatch
