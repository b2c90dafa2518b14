import ObjectWatch.Watcher.Notice
import ObjectWatch.Store.Client

/-!
# The journal of a run

A journal holds, in the order in which they happened, the notices and the calls to the outside: the
waits, the requests to the store, and the building of a client.
-/

namespace ObjectWatch

/-- A call to the outside. -/
inductive Call where
  | wait (seconds : Float)
  | head (bucket key : String)
  | get (bucket key : String)
  | client (options : ClientOptions)

/-- What happened. -/
inductive Event where
  | notice (notice : Notice)
  | call (call : Call)

/-- What happened in a run, the earliest first. -/
abbrev Journal := List Event

namespace Journal

/-- What building a client leaves behind.  Only the name of the source of the credentials is noted. -/
def ofClient (options : ClientOptions) (source : String) : Journal :=
  [.notice (.buildingClient options.region source options.embeddedCertificates),
    .call (.client options)]

/-- The notices of a journal. -/
def notices (journal : Journal) : List Notice :=
  journal.filterMap fun
    | .notice notice => some notice
    | .call _ => none

/-- The calls of a journal. -/
def calls (journal : Journal) : List Call :=
  journal.filterMap fun
    | .notice _ => none
    | .call call => some call

theorem notices_append (first second : Journal) :
    notices (first ++ second) = notices first ++ notices second :=
  List.filterMap_append

theorem calls_append (first second : Journal) :
    calls (first ++ second) = calls first ++ calls second :=
  List.filterMap_append

end Journal
end ObjectWatch
