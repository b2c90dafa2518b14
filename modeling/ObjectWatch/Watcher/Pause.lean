import ObjectWatch.Fault

/-!
# The pause between two polls

A pause waits for a number of seconds or until it is cancelled, whatever comes first.  A cancelled
pause stays cancelled, so every later wait ends at once, until it is reset.

A clock measures the wait, and some waits are too long for a clock.  Such a wait is refused before it
begins, unless the pause was cancelled: then nothing has to be measured.
-/

namespace ObjectWatch

/-- What measures a wait.  If nothing else is said, no wait is too long for it. -/
structure Clock where
  /-- Whether a number of seconds is too much for it. -/
  refuses : Float -> Bool := fun _ => false

namespace Clock

/-- The clock of the system counts nanoseconds in 63 bits, and this is the last number of seconds that
they hold.  An infinite wait is too long for it, and a number of seconds that is no number is not. -/
def system : Clock := { refuses := fun seconds => 9223372036.854774 < seconds }

/-- How a wait fails that is too long for the clock. -/
def overflow : Fault := .overflow "timestamp out of range for platform time_t"

end Clock

/-- A wait that can be interrupted. -/
structure Pause where
  isCancelled : Bool := false
deriving DecidableEq, Repr

namespace Pause

/-- Interrupt the wait in progress and every later one. -/
def cancel (_pause : Pause) : Pause := { isCancelled := true }

/-- Forget an earlier cancellation. -/
def reset (_pause : Pause) : Pause := { isCancelled := false }

/-- Whether a wait cannot begin. -/
def isRefused (clock : Clock) (pause : Pause) (seconds : Float) : Bool :=
  !pause.isCancelled && clock.refuses seconds

/-- The answer to a wait that could begin: whether it was interrupted.  How long it took is not part of
it. -/
def wait (pause : Pause) (_seconds : Float) : Bool := pause.isCancelled

end Pause
end ObjectWatch
