import ObjectWatch.Proofs.Watcher.Lifecycle

/-!
# Bodies that could not be opened

Opening a body closes it again if what went wrong counts as content that is not gzip.  Everything that the
format itself can object to counts as that: a wrong header, corrupt data, a wrong trailer, and data that
ends too early.  What does not count is a fault of the body's own, of a kind that is not expected while
content is opened, and such a fault leaves the body open.  Nobody is left then who could close it: the
stream was never handed out, and neither was the body.

How far the body was read does not matter, and neither does anything about the watcher: a poll that
retrieves a body and fails abandons it exactly as opening left it.
-/

namespace ObjectWatch

namespace Scene

/-- A poll that retrieves a body and fails has failed to open it, and abandons what opening left. -/
theorem Retrieves.abandons {scene after : Scene} {body : Body} {encoding : Option String}
    {failure : Failure} (retrieves : scene.Retrieves body encoding)
    (failed : Watcher.poll scene = .error failure after) :
    exists cause left, Gzip.openBody body = .error (cause, left) ∧
      failure.openingFault? = some cause ∧ failure.body? = some left := by
  rcases (poll_course scene).opening retrieves.1 retrieves.2 with ⟨metadata, _, course⟩
  rw [failed] at course
  cases course with
  | broken cause left unpacks opening unrelated => exact ⟨cause, left, opening, rfl, rfl⟩
  | notGzip cause left unpacks opening spoils => exact ⟨cause, left, opening, rfl, rfl⟩

end Scene

/-- A willing body that could not be opened is closed exactly if it was so before or the fault counts as
content that is not gzip, and else the fault is its own.  A poll that retrieves such a body and fails
leaves it like that.  So a fault is one after which no body stays open exactly if it counts as content
that is not gzip. -/
theorem abandoned_closed_iff {body : Body} (willing : body.closeFault = none) :
    (forall cause left, Gzip.openBody body = .error (cause, left) ->
      (left.closed = true ↔ body.closed = true ∨ cause.spoilsOpening = true) ∧
        (left.closed = false -> body.failure = some cause)) ∧
    (forall (scene after : Scene) encoding failure, scene.Retrieves body encoding ->
      Watcher.poll scene = .error failure after ->
        exists cause left, failure.openingFault? = some cause ∧ failure.body? = some left ∧
          (left.closed = true ↔ body.closed = true ∨ cause.spoilsOpening = true)) ∧
    (forall fault, fault.spoilsOpening = true ↔
      forall (other left : Body), other.closeFault = none ->
        Gzip.openBody other = .error (fault, left) -> left.closed = true) := by
  refine ⟨fun cause left failed => ⟨?_, ?_⟩, fun scene after encoding failure retrieves failed => ?_,
    fun fault => ⟨fun spoils other left agrees failed => ?_, fun closes => ?_⟩⟩
  · exact Gzip.closed_iff_of_openBody_error willing failed
  · exact Gzip.failure_of_left_open willing failed
  · rcases retrieves.abandons failed with ⟨cause, left, opening, told, kept⟩
    exact ⟨cause, left, told, kept, Gzip.closed_iff_of_openBody_error willing opening⟩
  · exact (Gzip.closed_iff_of_openBody_error agrees failed).mpr (.inr spoils)
  · rcases Gzip.openBody_unreadable fault with ⟨left, failed⟩
    have closed := closes (.unreadable fault) left rfl failed
    refine ((Gzip.closed_iff_of_openBody_error rfl failed).mp closed).resolve_left ?_
    exact Bool.false_ne_true

/-- A gzip file that fails after four bytes, in the middle of its header. -/
def failingHeader (fault : Fault) : Body :=
  { rest := Gzip.letterMember.take 4, failure := some fault }

/-- A store that serves such a file. -/
def servingHeader (fault : Fault) : Scene where
  watcher :=
    { target := { bucket := "b", key := "k.gz" }
      credentials := some (Credentials.resolve { bucket := "b", key := "k.gz" } []) }
  around :=
    { remote :=
        { heads := [{ outcome := .ok { tag := some "first" } }]
          gets := [{ outcome := .ok { body := some (failingHeader fault) } }] } }

/-- A stream that breaks in the header is left open, and one whose connection is reset there is closed. -/
theorem abandoned_closed_iff_in_header :
    (failingHeader (.brokenBody "cut")).closeFault = none ∧
      (servingHeader (.brokenBody "cut")).Retrieves (failingHeader (.brokenBody "cut")) none ∧
      (exists failure after left, Watcher.poll (servingHeader (.brokenBody "cut")) = .error failure after ∧
        failure.body? = some left ∧ left.closed = false) ∧
      (servingHeader (.system .connectionReset "reset")).Retrieves
        (failingHeader (.system .connectionReset "reset")) none ∧
      exists failure after left,
        Watcher.poll (servingHeader (.system .connectionReset "reset")) = .error failure after ∧
        failure.body? = some left ∧ left.closed = true := by
  have breaks : (servingHeader (.brokenBody "cut")).Retrieves (failingHeader (.brokenBody "cut")) none :=
    ⟨by decide +kernel, rfl⟩
  have resets : (servingHeader (.system .connectionReset "reset")).Retrieves
      (failingHeader (.system .connectionReset "reset")) none := ⟨by decide +kernel, rfl⟩
  refine ⟨rfl, breaks, ?_, resets, ?_⟩
  · have opens : exists left, Gzip.openBody (failingHeader (.brokenBody "cut")) =
        .error (.brokenBody "cut", left) := ⟨_, rfl⟩
    rcases opens with ⟨_, fails⟩
    rcases breaks.poll_of_unopened (by decide +kernel) fails with ⟨failure, after, failed, met, _⟩
    rcases (@abandoned_closed_iff (failingHeader (.brokenBody "cut")) rfl).2.1 _ _ none _ breaks
      failed with ⟨cause, left, told, kept, closed⟩
    rw [met] at told
    cases told
    refine ⟨failure, after, left, failed, kept, Bool.eq_false_iff.mpr fun isClosed => ?_⟩
    rcases closed.mp isClosed with impossible | impossible <;> cases impossible
  · have opens : exists left, Gzip.openBody (failingHeader (.system .connectionReset "reset")) =
        .error (.system .connectionReset "reset", left) := ⟨_, rfl⟩
    rcases opens with ⟨_, fails⟩
    rcases resets.poll_of_unopened (by decide +kernel) fails with ⟨failure, after, failed, met, _⟩
    rcases (@abandoned_closed_iff (failingHeader (.system .connectionReset "reset")) rfl).2.1 _ _
      none _ resets failed with ⟨cause, left, told, kept, closed⟩
    rw [met] at told
    cases told
    exact ⟨failure, after, left, failed, kept, closed.mpr (.inr rfl)⟩

end ObjectWatch
