import ObjectWatch.Text.Quoted

/-!
# Failures that come from outside

A store, a body, a sink or the operating system can fail in the ways listed here.  A fault says what
happened; its wording and the name of its kind, as they appear in messages and log notices, are two
functions on it.  A store may also raise an error of the watcher's own family, which then carries
nothing but its message.

Three classes decide how a failure is treated: `isOrdinary` faults can be handled at all,
`spoilsOpening` faults count as content that is not gzip, and `spoilsStream` faults count as a broken
transfer.
-/

namespace ObjectWatch

/-- The members of the operating-system family. -/
inductive SystemKind where
  | general
  | connection
  | connectionReset
  | brokenPipe
  | timeout
  | notGzip
  | alreadyExists
  | notFound
  | notDirectory
  | isDirectory
deriving DecidableEq, Repr

/-- The kinds of the watcher's own errors. -/
inductive WatchKind where
  | general
  | configuration
  | probe
  | retrieval
  | decode
  | cancelled
deriving DecidableEq, Repr

/-- A failure that comes from outside the watcher. -/
inductive Fault where
  | system (kind : SystemKind) (message : String)
  | readTimeout (endpoint : String)
  | endOfData (message : String)
  | corrupt (message : String)
  | badValue (message : String)
  | badState (message : String)
  | overflow (message : String)
  | other (message : String)
  | missingEntry (name : Option String)
  | keyboard (message : String)
  | exit (message : Option String)
  | service (code operation message : String)
  | unreachable (endpoint : String)
  | shortBody (actual expected : Int)
  | brokenBody (detail : String)
  | watch (kind : WatchKind) (message : String)
deriving DecidableEq, Repr

namespace SystemKind

/-- The name of the kind in notices. -/
def name : SystemKind -> String
  | general => "OSError"
  | connection => "ConnectionError"
  | connectionReset => "ConnectionResetError"
  | brokenPipe => "BrokenPipeError"
  | timeout => "TimeoutError"
  | notGzip => "BadGzipFile"
  | alreadyExists => "FileExistsError"
  | notFound => "FileNotFoundError"
  | notDirectory => "NotADirectoryError"
  | isDirectory => "IsADirectoryError"

end SystemKind

namespace WatchKind

/-- The name of the kind in notices. -/
def name : WatchKind -> String
  | general => "ObjectPollerError"
  | configuration => "ConfigurationError"
  | probe => "ProbeError"
  | retrieval => "RetrievalError"
  | decode => "DecodeError"
  | cancelled => "FetchCancelledError"

/-- The machine-readable code of the kind. -/
def code : WatchKind -> String
  | general => "OBJECT_POLLER_ERROR"
  | configuration => "CONFIGURATION_ERROR"
  | probe => "PROBE_ERROR"
  | retrieval => "RETRIEVAL_ERROR"
  | decode => "DECODE_ERROR"
  | cancelled => "FETCH_CANCELLED"

end WatchKind

namespace Fault

/-- The name of the kind in notices. -/
def name : Fault -> String
  | system kind _ => kind.name
  | readTimeout _ => "ReadTimeoutError"
  | endOfData _ => "EOFError"
  | corrupt _ => "error"
  | badValue _ => "ValueError"
  | badState _ => "RuntimeError"
  | overflow _ => "OverflowError"
  | other _ => "Exception"
  | missingEntry _ => "KeyError"
  | keyboard _ => "KeyboardInterrupt"
  | exit _ => "SystemExit"
  | service _ _ _ => "ClientError"
  | unreachable _ => "EndpointConnectionError"
  | shortBody _ _ => "IncompleteReadError"
  | brokenBody _ => "ResponseStreamingError"
  | watch kind _ => kind.name

/-- The wording of a fault.  A missing entry shows the quoted name it was looked for under. -/
def message : Fault -> String
  | system _ message => message
  | readTimeout endpoint => "Read timeout on endpoint URL: \"" ++ endpoint ++ "\""
  | endOfData message => message
  | corrupt message => message
  | badValue message => message
  | badState message => message
  | overflow message => message
  | other message => message
  | missingEntry none => ""
  | missingEntry (some name) => Text.quoted name
  | keyboard message => message
  | exit message => message.getD ""
  | service code operation message =>
      "An error occurred (" ++ code ++ ") when calling the " ++ operation ++ " operation: " ++ message
  | unreachable endpoint => "Could not connect to the endpoint URL: \"" ++ endpoint ++ "\""
  | shortBody actual expected =>
      toString actual ++ " read, but total bytes expected is " ++ toString expected ++ "."
  | brokenBody detail => "An error occurred while reading from response stream: " ++ detail
  | watch _ message => message

/-- Faults that a handler for failures sees.  An interruption from the keyboard and a request to
exit are not among them. -/
def isOrdinary : Fault -> Bool
  | keyboard _ => false
  | exit _ => false
  | _ => true

/-- Faults which, met while content is opened, count as content that is not gzip.  A timeout while
reading belongs to the operating-system family; the other transfer faults do not. -/
def spoilsOpening : Fault -> Bool
  | system _ _ => true
  | readTimeout _ => true
  | endOfData _ => true
  | corrupt _ => true
  | _ => false

/-- Faults which, met while content is copied, count as a broken transfer. -/
def spoilsStream : Fault -> Bool
  | shortBody _ _ => true
  | brokenBody _ => true
  | fault => fault.spoilsOpening

/-- The kind of watcher error that a fault was raised as, if it was. -/
def watchKind? : Fault -> Option WatchKind
  | watch kind _ => some kind
  | _ => none

theorem spoilsStream_of_spoilsOpening {fault : Fault} (spoils : fault.spoilsOpening = true) :
    fault.spoilsStream = true := by
  cases fault <;> simp_all [spoilsOpening, spoilsStream]

end Fault
end ObjectWatch
