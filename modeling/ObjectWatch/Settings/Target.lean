import ObjectWatch.Settings.Coercion
import ObjectWatch.Decimal.Notation

/-!
# What is watched

A target names one object, the keys and the region to reach it with, and the interval between two
looks at it.  Bucket and key may be missing here; the watcher refuses to start without them.
-/

namespace ObjectWatch

/-- The region of a store whose region is not configured. -/
def defaultRegion : String := "ap-southeast-2"

/-- The seconds between two polls when they are not configured. -/
def defaultInterval : Float := 300.0

/-- The end of the keys that name gzip files. -/
def compressedSuffix : String := ".gz"

/-- Whether a key names a gzip file. -/
def expectsCompressed (key : String) : Bool :=
  compressedSuffix.toList.isSuffixOf key.toList

/-- A watched object. -/
structure Target where
  bucket : String := ""
  key : String := ""
  accessKey : Option String := none
  secretKey : Option String := none
  region : Option String := none
  embeddedCertificates : Bool := false
  interval : Option Float := none

/-- The value of a field, or its default. -/
def fieldOr {α : Type} (fields : List (String × Value)) (name : String) (default : α)
    (read : Value -> Except Complaint α) : Checked α :=
  match fields.lookup name with
  | none => .ok default
  | some value => Checked.ofField name (read value)

/-- An interval has to be positive. -/
def positiveInterval (x : Float) : Except Complaint Float :=
  if x ≤ 0.0 then
    .error (.refused ("poll_interval_seconds must be positive, got " ++ Decimal.shown x))
  else .ok x

namespace Target

/-- The name of this configuration in reports. -/
def subject : String := "FetcherConfig"

/-- The target that loosely typed fields describe. -/
def ofFields (fields : List (String × Value)) : Except Rejection Target :=
  Checked.result subject
    (Target.mk
      <$> fieldOr fields "bucket" "" Coercion.text
      <*> fieldOr fields "key" "" Coercion.text
      <*> fieldOr fields "access_key" none (Coercion.optional Coercion.text)
      <*> fieldOr fields "secret_key" none (Coercion.optional Coercion.text)
      <*> fieldOr fields "region" none (Coercion.optional Coercion.text)
      <*> fieldOr fields "use_embedded_cert" false Coercion.truth
      <*> fieldOr fields "poll_interval_seconds" none
        (Coercion.optional fun value => Coercion.number value >>= positiveInterval))

/-- The fields that describe a target. -/
def fields (target : Target) : List (String × Value) :=
  [("bucket", .text target.bucket),
    ("key", .text target.key),
    ("access_key", .ofText? target.accessKey),
    ("secret_key", .ofText? target.secretKey),
    ("region", .ofText? target.region),
    ("use_embedded_cert", .bool target.embeddedCertificates),
    ("poll_interval_seconds", match target.interval with
      | none => .null
      | some x => .float x)]

/-- The region in use: an empty region is as good as none. -/
def regionInUse (target : Target) : String :=
  match target.region with
  | none => defaultRegion
  | some region => if region = "" then defaultRegion else region

/-- The interval in use. -/
def intervalInUse (target : Target) : Float :=
  match target.interval with
  | none => defaultInterval
  | some x => if x == 0.0 then defaultInterval else x

/-- The target with every default filled in. -/
def completed (target : Target) : Target :=
  { target with region := some target.regionInUse, interval := some target.intervalInUse }

end Target
end ObjectWatch
