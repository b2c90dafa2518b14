import ObjectWatch.Body
import ObjectWatch.Value
import ObjectWatch.Settings.Problem

/-!
# Failures of the watcher and the service

A failure says what went wrong and keeps the fault that caused it.  A failure that comes after
content was retrieved also keeps the body of the content as it was left behind, so that whether it
was closed can still be told.

A report is the form in which a failure is told to others: an error of the watcher's own family with
a code and a context, a rejected configuration, or a fault that went through unchanged.
-/

namespace ObjectWatch

/-- An error of the watcher's own family. -/
structure WatchError where
  kind : WatchKind
  message : String
  code : String
  /-- What a reader needs to know to find the cause. -/
  context : List (String × Value) := []
  /-- The setting that is at fault. -/
  field : Option String := none
  cause : Option Fault := none

namespace WatchError

/-- An error of a kind, under the code of the kind. -/
def ofKind (kind : WatchKind) (message : String) : WatchError :=
  { kind, message, code := kind.code }

/-- An error of no particular kind, under a code of its own if it has one. -/
def general (message : String) (code : Option String) (context : List (String × Value)) :
    WatchError :=
  { kind := .general
    message
    code := match code with
      | none => WatchKind.general.code
      | some code => if code = "" then WatchKind.general.code else code
    context }

end WatchError

/-- What is told about a failure. -/
inductive Report where
  | watch (error : WatchError)
  | refusal (rejection : Rejection)
  | foreign (fault : Fault)

namespace Report

/-- The report of a fault.  A fault of the watcher's own family is told as such an error. -/
def ofFault : Fault -> Report
  | .watch kind message => watch (.ofKind kind message)
  | fault => foreign fault

/-- The name of the kind in notices. -/
def name : Report -> String
  | watch error => error.kind.name
  | refusal _ => Rejection.name
  | foreign fault => fault.name

/-- The wording. -/
def message : Report -> String
  | watch error => error.message
  | refusal rejection => rejection.message
  | foreign fault => fault.message

/-- The code, which only errors of the watcher's own family have. -/
def code? : Report -> Option String
  | watch error => some error.code
  | _ => none

/-- The kind of an error of the watcher's own family. -/
def watchKind? : Report -> Option WatchKind
  | watch error => some error.kind
  | _ => none

/-- Whether a handler for failures sees it. -/
def isOrdinary : Report -> Bool
  | foreign fault => fault.isOrdinary
  | _ => true

end Report

/-- What can go wrong. -/
inductive Failure where
  /-- The configuration names no bucket. -/
  | bucketMissing
  /-- The configuration names no key. -/
  | keyMissing
  /-- A watcher was asked to poll before it was prepared. -/
  | watcherNotReady
  /-- A service was asked to run before it was prepared. -/
  | serviceNotReady
  /-- The pause was cancelled; `waiting` tells whether a wait ended because of it. -/
  | cancelled (waiting : Bool)
  /-- The request for metadata failed. -/
  | probe (bucket key : String) (cause : Fault)
  /-- The request for content failed. -/
  | retrieval (bucket key token : String) (cause : Fault)
  /-- The content could not be opened as gzip. -/
  | decode (key token : String) (cause : Fault) (body : Body)
  /-- Opening the content met a fault that says nothing about its being gzip. -/
  | opening (cause : Fault) (body : Body)
  /-- The settings are not acceptable. -/
  | rejected (rejection : Rejection)
  /-- A fault went through. -/
  | foreign (fault : Fault)

namespace Failure

/-- What is told about a failure. -/
def report : Failure -> Report
  | bucketMissing =>
      .watch { WatchError.ofKind .configuration "S3 bucket not set" with field := some "bucket" }
  | keyMissing =>
      .watch { WatchError.ofKind .configuration "S3 key not set" with field := some "key" }
  | watcherNotReady => .foreign (.badState "Fetcher not initialized")
  | serviceNotReady => .foreign (.badState "Application not initialized")
  | cancelled waiting =>
      .watch (.ofKind .cancelled
        (if waiting then "Fetch cancelled while waiting" else "Fetch cancelled"))
  | probe bucket key cause =>
      .watch
        { WatchError.ofKind .probe ("HEAD request failed (" ++ cause.message ++ ")") with
          context := [("bucket", .text bucket), ("key", .text key)]
          cause := some cause }
  | retrieval bucket key token cause =>
      .watch
        { WatchError.ofKind .retrieval ("GET request failed (" ++ cause.message ++ ")") with
          context := [("bucket", .text bucket), ("key", .text key), ("change_token", .text token)]
          cause := some cause }
  | decode key token cause _ =>
      .watch
        { WatchError.ofKind .decode ("gzip decode failed (" ++ cause.message ++ ")") with
          context := [("key", .text key), ("change_token", .text token)]
          cause := some cause }
  | opening cause _ => .ofFault cause
  | rejected rejection => .refusal rejection
  | foreign fault => .ofFault fault

/-- The body that a failure left behind. -/
def body? : Failure -> Option Body
  | decode _ _ _ body => some body
  | opening _ body => some body
  | _ => none

end Failure
end ObjectWatch
