import ObjectWatch.Value

/-!
# Counters

A watcher counts what became of its requests.  Probes and retrievals count the requests that came
to an end, and the failures among them are counted beside them.
-/

namespace ObjectWatch

/-- The counters of a watcher. -/
structure Tally where
  probes : Nat := 0
  probeFailures : Nat := 0
  unchanged : Nat := 0
  retrievals : Nat := 0
  retrievalFailures : Nat := 0
  decoded : Nat := 0
  decodeFailures : Nat := 0
  /-- The token of the last version that was retrieved. -/
  lastToken : String := ""
  /-- Whether any version was retrieved, which gives the last update a time. -/
  hasUpdateTime : Bool := false
deriving DecidableEq, Repr

namespace Tally

/-- Count a probe. -/
def recordProbe (success : Bool) (tally : Tally) : Tally :=
  { tally with
    probes := tally.probes + 1
    probeFailures := if success then tally.probeFailures else tally.probeFailures + 1 }

/-- Count a probe that found nothing new. -/
def recordUnchanged (tally : Tally) : Tally := { tally with unchanged := tally.unchanged + 1 }

/-- Count a retrieval of the version with a given token. -/
def recordRetrieval (token : String) (success : Bool) (tally : Tally) : Tally :=
  if success then
    { tally with retrievals := tally.retrievals + 1, lastToken := token, hasUpdateTime := true }
  else
    { tally with
      retrievals := tally.retrievals + 1
      retrievalFailures := tally.retrievalFailures + 1 }

/-- Count an attempt to decode. -/
def recordDecode (success : Bool) (tally : Tally) : Tally :=
  if success then { tally with decoded := tally.decoded + 1 }
  else { tally with decodeFailures := tally.decodeFailures + 1 }

/-- The retrievals that produced content. -/
def updates (tally : Tally) : Int := (tally.retrievals : Int) - tally.retrievalFailures

/-- The counters as they are logged.  The moment of the last update is replaced by a mark. -/
def fields (tally : Tally) : List (String × Value) :=
  [("probes", .int tally.probes),
    ("probe_failures", .int tally.probeFailures),
    ("unchanged", .int tally.unchanged),
    ("retrievals", .int tally.retrievals),
    ("retrieval_failures", .int tally.retrievalFailures),
    ("decoded", .int tally.decoded),
    ("decode_failures", .int tally.decodeFailures),
    ("last_change_token", .text tally.lastToken),
    ("last_update_time", if tally.hasUpdateTime then .text "set" else .null),
    ("updates", .int tally.updates)]

end Tally
end ObjectWatch
