import ObjectWatch.Watcher.Poll
import ObjectWatch.Service.Exit
import ObjectWatch.Settings.Sources

/-!
# Checking access to the object

A checkup sends a single request for metadata, with the settings and the credentials that the
service would use, and reports in words what a watcher would see.
-/

namespace ObjectWatch

open EnvFile (Environment)

/-- What a checkup reports. -/
structure Checkup where
  /-- The printed texts, each of which ends a line. -/
  lines : List String
  journal : Journal := []
  /-- Whether the object could be reached, or the fault that broke the checkup off. -/
  result : Except Fault Bool

namespace Checkup

/-- The texts with which a checkup begins. -/
def heading : List String :=
  ["🚀 Object Poller - S3 Object Check", String.ofList (List.replicate 50 '='),
    "🔍 Checking S3 object..."]

/-- The texts about the configuration. -/
def configurationLines (target : Target) (credentials : Credentials) : List String :=
  ["📋 Configuration:",
    "   Bucket: " ++ target.bucket,
    "   Key: " ++ target.key,
    "   Region: " ++ target.regionInUse,
    "   Credentials: " ++ credentials.source,
    "   Embedded cert: " ++ Text.shownBool target.embeddedCertificates]

/-- An encoding as it is shown. -/
def shownEncoding (encoding : Option String) : String :=
  match encoding with
  | none => "-"
  | some encoding => if encoding = "" then "-" else encoding

/-- Whether the report says that the transport takes care of unpacking: its word has to be written in
small letters. -/
def reportsTransport (encoding : Option String) : Bool :=
  Text.occurs gzipWord.toList (encoding.getD "").toList

/-- The texts about the object. -/
def objectLines (key : String) (metadata : Metadata) : List String :=
  ["✅ ETag: " ++ metadata.token,
    "   Content-Encoding: " ++ shownEncoding metadata.encoding] ++
  if expectsCompressed key then
    [if reportsTransport metadata.encoding then
        "   Gzip handled by transport, no client-side decoding"
      else "   Gzip will be decoded client-side"]
  else []

/-- The text about something that went wrong. -/
def problemLine (report : Report) : String :=
  match report with
  | .watch error => "❌ Configuration error: " ++ error.message
  | report => "❌ HEAD request failed: " ++ report.message

/-- The report of a checkup that failed after some texts. -/
def failing (lines : List String) (journal : Journal) (report : Report) : Checkup :=
  match report with
  | .foreign fault =>
      if fault.isOrdinary then
        { lines := lines ++ [problemLine report], journal, result := .ok false }
      else { lines, journal, result := .error fault }
  | report => { lines := lines ++ [problemLine report], journal, result := .ok false }

/-- Ask for the metadata with a client of its own. -/
def examine (target : Target) (credentials : Credentials) (remote : Remote) (journal : Journal) :
    Checkup :=
  let journal := journal ++ .ofClient (.ofTarget target credentials) credentials.source
  let lines := heading ++ configurationLines target credentials
  match remote.client with
  | (some fault, _) => failing lines journal (.ofFault fault)
  | (none, remote) =>
      let journal := journal ++ [.call (.head target.bucket target.key)]
      match remote.head.1.outcome with
      | .error fault => failing lines journal (.ofFault fault)
      | .ok metadata =>
          { lines := lines ++ objectLines target.key metadata, journal, result := .ok true }

/-- Prepare a watcher for a target and examine the object. -/
def ofTarget (target : Target) (environment : Environment) (remote : Remote) : Checkup :=
  let watcher : Watcher := { target, environment, buildsClient := true }
  match Watcher.prepare { watcher, around := { remote } } with
  | .error failure scene => failing heading scene.around.journal failure.report
  | .ok () scene =>
      examine scene.watcher.target (scene.watcher.credentials.getD {}) scene.around.remote
        scene.around.journal

/-- Check the object that the settings name. -/
def ofSources (sources : Sources) (remote : Remote) : Checkup :=
  match sources.settingsOnce none with
  | .error rejection => failing heading [] (.refusal rejection)
  | .ok settings =>
      match settings.target with
      | .error rejection => failing heading [] (.refusal rejection)
      | .ok target => ofTarget target sources.environment remote

/-- The printed text, without the lines of a report on settings that describe its problems. -/
def text (checkup : Checkup) : String :=
  Text.abridged (String.join (checkup.lines.map (· ++ "\n")))

/-- How a checkup ends, if it comes to an end. -/
def exit (checkup : Checkup) : Except Fault ExitStatus :=
  match checkup.result with
  | .ok reached => .ok (.ofSuccess reached)
  | .error (.exit message) => .ok (.requested message)
  | .error fault => .error fault

end Checkup
end ObjectWatch
