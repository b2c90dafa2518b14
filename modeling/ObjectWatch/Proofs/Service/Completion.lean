import ObjectWatch.Proofs.Service.GracefulStop

/-!
# Runs come to their end by themselves

A run has a number of rounds, two more than there are replies to probes.  They are never what ends it, as
long as a request to stop can reach the service.  Every round but the last one takes a reply, and a service
that has polled before is asked to stop while it waits for a store that has none left.

So with more rounds a run does the same, and nothing that is said about the runs of a service depends on how
many rounds they are given.
-/

namespace ObjectWatch

open Watcher

/-! ## Polls that are carried through -/

namespace Course

variable {scene : Scene} {result : PollEnd}

/-- A poll gets to its probe, or it ends with a failure that is not counted. -/
theorem probing_or_uncounted (course : Course scene result) :
    (scene.begun.watcher.pause.isCancelled = false ∧ ProbeCourse scene.begun result) ∨
      exists failure after, result = .error failure after ∧ failure.report.isCounted = false := by
  cases course with
  | notPrepared unprepared => exact .inr ⟨_, _, rfl, rfl⟩
  | waitRefused prepared stranded => exact .inr ⟨_, _, rfl, rfl⟩
  | stoppedWaiting prepared polled paced cancelled => exact .inr ⟨_, _, rfl, rfl⟩
  | stoppedBefore prepared first cancelled => exact .inr ⟨_, _, rfl, rfl⟩
  | probing result prepared free course => exact .inl ⟨Scene.begun_free free, course⟩

end Course

namespace Scene

variable {scene : Scene}

/-- A watcher that waits before its probe is not kept from it only if the store has a reply left. -/
theorem speaking_of_begun (polled : scene.watcher.progress.hasPolled = true)
    (reached : scene.around.stopper ≠ .absent)
    (free : scene.begun.watcher.pause.isCancelled = false) : scene.around.remote.heads ≠ [] := by
  intro silent
  have stopped : scene.waited.watcher.pause.isCancelled = true := by
    have quiet : scene.around.remote.isSilent = true := List.isEmpty_iff.mpr silent
    have asked : (scene.around.stopper != .absent) = true := bne_iff_ne.mpr reached
    rw [waited_watcher, quiet, asked, Bool.and_true, Bool.or_true]
    rfl
  rw [begun_watcher, polled] at free
  cases stopped.symm.trans free

end Scene

/-- After a poll that got to its probe the watcher has polled, and the first reply to a probe is gone. -/
theorem ProbeCourse.moved {scene : Scene} {result : PollEnd} (course : ProbeCourse scene.begun result) :
    (stateOf result).watcher.progress.hasPolled = true ∧
      (stateOf result).around.stopper = scene.around.stopper ∧
      (stateOf result).around.remote.heads = scene.around.remote.heads.tail := by
  rcases Watcher.parts_of_lasting course.lasting_eq with ⟨_, _, _, polled⟩
  rcases course.given with ⟨gets, given⟩
  have taken := given.heads
  rw [scene.begun_remote] at taken
  refine ⟨?_, ?_, ?_⟩
  · rw [polled, scene.begun_watcher]
    rfl
  · exact (congrArg Prod.fst course.standing_eq).trans scene.begun_stopper
  · generalize (stateOf result).around.remote.heads = left at taken
    cases heads : scene.around.remote.heads with
    | nil =>
        rw [heads] at taken
        exact taken.symm
    | cons reply replies =>
        rw [heads] at taken
        exact (List.cons.inj taken).2.symm

namespace Service

variable {sink : Sink} {service next : Service}

/-- The poll of a round that goes on got to its probe: a failure before it is not counted. -/
theorem probing_of_goesOn (goesOn : pollOnce sink service = .ok true next) {scene : Scene}
    (isScene : service.scene? = some scene) :
    scene.begun.watcher.pause.isCancelled = false ∧ ProbeCourse scene.begun (poll scene) := by
  have course := round_course sink service
  rw [goesOn] at course
  rcases (poll_course scene).probing_or_uncounted with probing | ⟨failure, after, polled, uncounted⟩
  · exact probing
  · cases course with
    | unchanged other last same succeeded =>
        cases isScene.symm.trans same
        cases polled.symm.trans succeeded
    | failed other last told same failed counted =>
        cases isScene.symm.trans same
        cases polled.symm.trans failed
        cases uncounted.symm.trans counted
    | written other last content size done same succeeded delivers =>
        cases isScene.symm.trans same
        cases polled.symm.trans succeeded
    | unwritten other last content fault done same succeeded fails spoils =>
        cases isScene.symm.trans same
        cases polled.symm.trans succeeded

/-- What a round that goes on has moved, and what it has not. -/
structure Moved (service : Service) (scene : Scene) (next : Service) : Prop where
  isScene : service.scene? = some scene
  free : scene.begun.watcher.pause.isCancelled = false
  watcher : exists following, next.watcher = some following ∧ following.progress.hasPolled = true
  stopper : next.around.stopper = service.around.stopper
  heads : next.around.remote.heads = service.around.remote.heads.tail

/-- A service that goes on has taken the first reply to a probe. -/
theorem moved_of_goesOn (goesOn : pollOnce sink service = .ok true next) :
    exists scene, service.Moved scene next := by
  cases isScene : service.scene? with
  | none =>
      rw [pollOnce_of_no_scene isScene] at goesOn
      cases goesOn
  | some scene =>
      have leaves := (round_course sink service).leaves isScene
      rw [goesOn] at leaves
      rcases leaves.around with ⟨journal, running, around⟩
      have nextAround : next.around = _ := around
      rcases probing_of_goesOn goesOn isScene with ⟨free, course⟩
      rcases course.moved with ⟨polled, stopper, heads⟩
      rcases Option.map_eq_some_iff.mp isScene with ⟨watcher, isWatcher, rfl⟩
      refine ⟨_, isScene, free, ⟨_, leaves.watcher, polled⟩, ?_, ?_⟩
      · rw [nextAround]
        exact stopper
      · rw [nextAround]
        exact heads

/-- A service that goes on after it had polled before, and that can be asked to stop, took a reply that was
there. -/
theorem Moved.spoke {scene : Scene} (moved : service.Moved scene next) {watcher : Watcher}
    (isWatcher : service.watcher = some watcher) (polled : watcher.progress.hasPolled = true)
    (reached : service.around.stopper ≠ .absent) : service.around.remote.heads ≠ [] := by
  rcases Option.map_eq_some_iff.mp moved.isScene with ⟨same, present, rfl⟩
  cases isWatcher.symm.trans present
  exact Scene.speaking_of_begun polled reached moved.free

/-! ## Enough rounds -/

/-- A service that has polled needs a round for every reply to a probe, and one more. -/
theorem polls_of_polled {watcher : Watcher} (isWatcher : service.watcher = some watcher)
    (polled : watcher.progress.hasPolled = true) (reached : service.around.stopper ≠ .absent)
    {rounds : Nat} (enough : service.around.remote.heads.length < rounds) (more : Nat) :
    service.polls sink (rounds + more) = service.polls sink rounds := by
  induction rounds generalizing service watcher with
  | zero => cases enough
  | succ rounds inductionHypothesis =>
      rw [Nat.succ_add, polls, polls]
      cases ended : pollOnce sink service with
      | error failure next => rfl
      | ok goesOn next =>
          cases goesOn with
          | false => rfl
          | true =>
              rcases moved_of_goesOn ended with ⟨scene, moved⟩
              rcases moved.watcher with ⟨following, isNext, polledNext⟩
              have fewer : next.around.remote.heads.length < rounds := by
                have some := List.length_pos_iff.mpr (moved.spoke isWatcher polled reached)
                rw [moved.heads, List.length_tail]
                omega
              have later := inductionHypothesis isNext polledNext (moved.stopper ▸ reached) fewer
              dsimp only
              rw [later]

/-- The rounds of a run are enough: with more of them the same services poll. -/
theorem polls_of_enough (reached : service.around.stopper ≠ .absent) {rounds : Nat}
    (enough : service.roundsBound ≤ rounds) :
    service.polls sink rounds = service.polls sink service.roundsBound := by
  rcases Nat.exists_eq_add_of_le enough with ⟨more, rfl⟩
  have bound : service.roundsBound = service.around.remote.heads.length + 1 + 1 := rfl
  rw [bound, Nat.succ_add, polls, polls]
  cases ended : pollOnce sink service with
  | error failure next => rfl
  | ok goesOn next =>
      cases goesOn with
      | false => rfl
      | true =>
          rcases moved_of_goesOn ended with ⟨scene, moved⟩
          rcases moved.watcher with ⟨following, isNext, polled⟩
          have fewer : next.around.remote.heads.length < service.around.remote.heads.length + 1 := by
            rw [moved.heads, List.length_tail]
            omega
          dsimp only
          rw [polls_of_polled isNext polled (moved.stopper ▸ reached) fewer]

end Service
end ObjectWatch
