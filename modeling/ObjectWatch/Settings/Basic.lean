import ObjectWatch.Settings.Target

/-!
# The settings of the service

The settings say which object is watched, with which keys, how often and for how long, where its
versions go, and what is logged.  They are checked field by field.  A settings record and the fields
that describe it carry the same information, as far as fields are acceptable at all.
-/

namespace ObjectWatch

/-- How serious a notice is. -/
inductive Level where
  | debug
  | info
  | warning
  | error
  | critical
deriving DecidableEq, Repr

namespace Level

/-- The levels from the least to the most serious. -/
def all : List Level := [debug, info, warning, error, critical]

/-- The name of a level in the settings. -/
def settingName : Level -> String
  | debug => "DEBUG"
  | info => "INFO"
  | warning => "WARNING"
  | error => "ERROR"
  | critical => "CRITICAL"

/-- The name of a level in notices. -/
def name : Level -> String
  | debug => "debug"
  | info => "info"
  | warning => "warning"
  | error => "error"
  | critical => "critical"

/-- The rank of a level. -/
def rank : Level -> Nat
  | debug => 10
  | info => 20
  | warning => 30
  | error => 40
  | critical => 50

/-- The level with a given name, in any letter case. -/
def ofName? (s : String) : Option Level :=
  all.find? fun level => level.settingName == Text.toUpper s

end Level

/-- The form in which notices are logged. -/
inductive LogForm where
  | json
  | console
deriving DecidableEq, Repr

namespace LogForm

/-- The forms. -/
def all : List LogForm := [json, console]

/-- The name of a form in the settings. -/
def settingName : LogForm -> String
  | json => "json"
  | console => "console"

/-- The form with a given name, in any letter case. -/
def ofName? (s : String) : Option LogForm :=
  all.find? fun form => form.settingName == Text.toLower s

end LogForm

/-- The settings of the service. -/
structure Settings where
  bucket : String := ""
  key : String := ""
  accessKey : String := ""
  secretKey : String := ""
  region : String := ""
  embeddedCertificates : Bool := false
  interval : Float := defaultInterval
  /-- Stop after this many failures in a row; zero stands for never. -/
  failureLimit : Nat := 0
  /-- The file that receives updates; without one they go to standard output. -/
  outputPath : String := ""
  level : Level := .info
  form : LogForm := .json

namespace Settings

/-- The name of this configuration in reports. -/
def subject : String := "Settings"

/-- A limit cannot be negative. -/
def limit (n : Int) : Except Complaint Nat :=
  if n < 0 then .error (.refused "max_consecutive_failures cannot be negative") else .ok n.toNat

/-- A level has to be known. -/
def level? (s : String) : Except Complaint Level :=
  match Level.ofName? s with
  | some level => .ok level
  | none => .error (.refused ("Invalid log level: " ++ s))

/-- A form has to be known. -/
def form? (s : String) : Except Complaint LogForm :=
  match LogForm.ofName? s with
  | some form => .ok form
  | none => .error (.refused ("Invalid log format: " ++ s))

/-- The settings that loosely typed fields describe. -/
def ofFields (fields : List (String × Value)) : Except Rejection Settings :=
  Checked.result subject
    (Settings.mk
      <$> fieldOr fields "s3_bucket" "" Coercion.text
      <*> fieldOr fields "s3_key" "" Coercion.text
      <*> fieldOr fields "s3_access_key" "" Coercion.text
      <*> fieldOr fields "s3_secret_key" "" Coercion.text
      <*> fieldOr fields "s3_region" "" Coercion.text
      <*> fieldOr fields "s3_use_embedded_cert" false Coercion.truth
      <*> fieldOr fields "poll_interval_seconds" defaultInterval
        (fun value => Coercion.number value >>= positiveInterval)
      <*> fieldOr fields "max_consecutive_failures" 0
        (fun value => Coercion.integer value >>= limit)
      <*> fieldOr fields "output_path" "" Coercion.text
      <*> fieldOr fields "log_level" .info (fun value => Coercion.text value >>= level?)
      <*> fieldOr fields "log_format" .json (fun value => Coercion.text value >>= form?))

/-- The fields that describe the settings. -/
def fields (settings : Settings) : List (String × Value) :=
  [("s3_bucket", .text settings.bucket),
    ("s3_key", .text settings.key),
    ("s3_access_key", .text settings.accessKey),
    ("s3_secret_key", .text settings.secretKey),
    ("s3_region", .text settings.region),
    ("s3_use_embedded_cert", .bool settings.embeddedCertificates),
    ("poll_interval_seconds", .float settings.interval),
    ("max_consecutive_failures", .int settings.failureLimit),
    ("output_path", .text settings.outputPath),
    ("log_level", .text settings.level.settingName),
    ("log_format", .text settings.form.settingName)]

/-- The names of the fields. -/
def fieldNames : List String :=
  ["s3_bucket", "s3_key", "s3_access_key", "s3_secret_key", "s3_region", "s3_use_embedded_cert",
    "poll_interval_seconds", "max_consecutive_failures", "output_path", "log_level", "log_format"]

/-- An empty text stands for nothing. -/
def nonEmpty? (s : String) : Option String := if s = "" then none else some s

/-- The fields of the target that the settings describe. -/
def targetFields (settings : Settings) : List (String × Value) :=
  [("bucket", .text settings.bucket),
    ("key", .text settings.key),
    ("access_key", .ofText? (nonEmpty? settings.accessKey)),
    ("secret_key", .ofText? (nonEmpty? settings.secretKey)),
    ("region", .ofText? (nonEmpty? settings.region)),
    ("use_embedded_cert", .bool settings.embeddedCertificates),
    ("poll_interval_seconds", .float settings.interval)]

/-- The target that the settings describe. -/
def target (settings : Settings) : Except Rejection Target :=
  Target.ofFields settings.targetFields

end Settings

end ObjectWatch
