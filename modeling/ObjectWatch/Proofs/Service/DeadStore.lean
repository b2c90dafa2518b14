import ObjectWatch.Proofs.Service.Completion

/-!
# Runs on a dead store

A store dies when it answers no request for metadata any more.  A service with a limit on its failures
polls such a store only so often: every poll takes a reply, and once the store is dead every poll is one
more failure in a row, so the limit is reached after as many polls.  Nothing else can keep the run going.
Replies before that, content, broken transfers, and requests to stop may come as they like, since they
only end the run earlier or set the count of failures to zero before the store is dead.

The rounds of a run are a bound that the library puts on the loop.  `Loops` is the loop without it, and
what is said here does not depend on the number of rounds.
-/

namespace ObjectWatch

open Watcher

/-- All requests for metadata fail, except for the given number of them at the beginning. -/
def Remote.DiesAfter (answers : Nat) (remote : Remote) : Prop :=
  forall reply, reply ∈ remote.heads.drop answers -> exists fault, reply.outcome = .error fault

namespace Remote

variable {remote other : Remote} {answers : Nat}

/-- The next request to a dead store fails, also when it has run out of replies. -/
theorem DiesAfter.head (dead : remote.DiesAfter 0) : exists fault, remote.head.1.outcome = .error fault := by
  unfold Remote.head
  cases replies : remote.heads with
  | nil => exact ⟨exhausted, rfl⟩
  | cons reply rest =>
      refine dead reply ?_
      rw [replies]
      exact List.mem_cons_self

/-- Taking a reply brings a store nearer to its end. -/
theorem DiesAfter.of_tail (dies : remote.DiesAfter (answers + 1)) (heads : other.heads = remote.heads.tail) :
    other.DiesAfter answers := by
  intro reply member
  rw [heads, List.drop_tail] at member
  exact dies reply member

/-- A dead store stays dead. -/
theorem DiesAfter.of_tail_zero (dead : remote.DiesAfter 0) (heads : other.heads = remote.heads.tail) :
    other.DiesAfter 0 := by
  intro reply member
  rw [heads, List.drop_zero] at member
  exact dead reply (List.mem_of_mem_tail member)

end Remote

namespace Service

variable {sink : Sink} {service next : Service} {result : EStateM.Result Failure Service Unit}

/-! ## The loop without a bound -/

/-- The loop of a service ends in a result after a number of polls. -/
inductive Loops (sink : Sink) : Service -> Nat -> EStateM.Result Failure Service Unit -> Prop where
  | halted {service : Service} (halted : service.around.running = false) :
      Loops sink service 0 (.ok () service)
  | last {service next : Service} (running : service.around.running = true)
      (polled : pollOnce sink service = .ok false next) : Loops sink service 1 (.ok () next)
  | broken {service next : Service} {failure : Failure} (running : service.around.running = true)
      (polled : pollOnce sink service = .error failure next) : Loops sink service 1 (.error failure next)
  | more {service next : Service} {polls : Nat} {result : EStateM.Result Failure Service Unit}
      (running : service.around.running = true) (polled : pollOnce sink service = .ok true next)
      (later : Loops sink next polls result) : Loops sink service (polls + 1) result

/-- With enough rounds a run is the loop. -/
theorem Loops.pollRounds_eq {polls : Nat} (loops : Loops sink service polls result) {rounds : Nat}
    (enough : polls ≤ rounds) :
    pollRounds sink rounds service = result ∧ (service.polls sink rounds).length = polls := by
  induction loops generalizing rounds with
  | halted halted =>
      cases rounds with
      | zero => exact ⟨rfl, rfl⟩
      | succ rounds =>
          rw [pollRounds_succ, Service.polls, halted]
          exact ⟨rfl, rfl⟩
  | last running polled =>
      rcases Nat.exists_eq_add_of_lt enough with ⟨fewer, rfl⟩
      rw [pollRounds_succ, Service.polls, running, polled]
      exact ⟨rfl, rfl⟩
  | broken running polled =>
      rcases Nat.exists_eq_add_of_lt enough with ⟨fewer, rfl⟩
      rw [pollRounds_succ, Service.polls, running, polled]
      exact ⟨rfl, rfl⟩
  | more running polled later inductionHypothesis =>
      rcases Nat.exists_eq_add_of_lt enough with ⟨fewer, rfl⟩
      rcases inductionHypothesis (Nat.le_add_right _ fewer) with ⟨same, length⟩
      rw [pollRounds_succ, Service.polls, running, polled]
      exact ⟨same, congrArg Nat.succ length⟩

/-- The loop polls at most once, or it polls and goes on. -/
theorem loops_or_goesOn (sink : Sink) (service : Service) :
    (exists polls result, polls ≤ 1 ∧ Loops sink service polls result) ∨
      exists next, service.around.running = true ∧ pollOnce sink service = .ok true next := by
  cases running : service.around.running with
  | false => exact .inl ⟨0, _, Nat.zero_le 1, .halted running⟩
  | true =>
      cases polled : pollOnce sink service with
      | error failure next => exact .inl ⟨1, _, Nat.le_refl 1, .broken running polled⟩
      | ok goesOn next =>
          cases goesOn with
          | false => exact .inl ⟨1, _, Nat.le_refl 1, .last running polled⟩
          | true => exact .inr ⟨next, rfl, rfl⟩

/-! ## Polls of a dead store -/

theorem settings_of_goesOn (goesOn : pollOnce sink service = .ok true next) :
    next.settings = service.settings := by
  rcases pollOnce_counts sink service with ⟨_, same, _, polled, counts⟩ | ⟨_, stops, _⟩
  · cases goesOn.symm.trans polled
    exact counts.settings
  · exact absurd goesOn (stops next)

/-- A service that goes on although the store is dead has counted one more failure, and it is not to go on
if that was one too many. -/
theorem counted_of_dead (dead : service.around.remote.DiesAfter 0)
    (goesOn : pollOnce sink service = .ok true next) :
    next.failures = service.failures + 1 ∧
      (next.ReachesLimit -> next.around.running = false) := by
  rcases pollOnce_counts sink service with ⟨outcome, same, ended, polled, counts⟩ | ⟨_, stops, _⟩
  · cases goesOn.symm.trans polled
    rcases moved_of_goesOn goesOn with ⟨scene, moved⟩
    rcases Option.map_eq_some_iff.mp moved.isScene with ⟨watcher, _, rfl⟩
    have course := (probing_of_goesOn goesOn moved.isScene).2
    rcases dead.head with ⟨fault, fails⟩
    have silent : Scene.headReply (Scene.begun { watcher, around := service.around }) =
        service.around.remote.head.1 := Scene.begun_headReply _
    rw [← silent] at fails
    have failed : outcome.isFailure = true := by
      unfold pollOutcome? at ended
      rw [moved.isScene, Option.bind_some] at ended
      generalize poll { watcher, around := service.around } = polled at course ended
      cases course with
      | aborted cause outcome aborts =>
          dsimp only at ended
          split at ended
          · cases ended
            rfl
          · cases ended
      | failed cause outcome ordinary =>
          cases ended
          rfl
      | unchanged metadata outcome known => cases fails.symm.trans outcome
      | changed metadata result outcome new course => cases fails.symm.trans outcome
    refine ⟨counts.failures.trans (if_pos failed), fun reaches => ?_⟩
    exact Bool.eq_false_iff.mpr fun running => (counts.running.mp running).1 reaches
  · exact absurd goesOn (stops next)

/-- On a dead store the failures that the service still bears bound its polls, except for the first one. -/
theorem loops_of_dead {bears : Nat} (limited : 0 < service.settings.failureLimit)
    (dead : service.around.remote.DiesAfter 0)
    (left : service.settings.failureLimit ≤ service.failures + bears) :
    exists polls result, polls ≤ max 1 bears ∧ Loops sink service polls result := by
  induction bears generalizing service with
  | zero =>
      rcases loops_or_goesOn sink service with ⟨polls, result, few, loops⟩ | ⟨next, running, goesOn⟩
      · exact ⟨polls, result, few, loops⟩
      · have settings := settings_of_goesOn goesOn
        rcases counted_of_dead dead goesOn with ⟨failures, gaveUp⟩
        have reaches : next.ReachesLimit := ⟨settings ▸ limited, by rw [settings, failures]; omega⟩
        exact ⟨1, _, Nat.le_refl 1, .more running goesOn (.halted (gaveUp reaches))⟩
  | succ bears inductionHypothesis =>
      rcases loops_or_goesOn sink service with ⟨polls, result, few, loops⟩ | ⟨next, running, goesOn⟩
      · exact ⟨polls, result, by omega, loops⟩
      · have settings := settings_of_goesOn goesOn
        rcases counted_of_dead dead goesOn with ⟨failures, gaveUp⟩
        rcases moved_of_goesOn goesOn with ⟨scene, moved⟩
        by_cases reaches : next.ReachesLimit
        · exact ⟨1, _, by omega, .more running goesOn (.halted (gaveUp reaches))⟩
        · have bearsMore : ¬ (0 < next.settings.failureLimit ∧
              next.settings.failureLimit ≤ next.failures) := reaches
          rw [settings] at bearsMore
          have further : next.settings.failureLimit ≤ next.failures + bears := by
            rw [settings]
            omega
          rcases inductionHypothesis (settings ▸ limited) (dead.of_tail_zero moved.heads) further with
            ⟨polls, result, few, loops⟩
          exact ⟨polls + 1, result, by omega, .more running goesOn loops⟩

/-- The replies before the store dies and the limit bound the polls of a loop. -/
theorem loops_of_dies {answers : Nat} (limited : 0 < service.settings.failureLimit)
    (dies : service.around.remote.DiesAfter answers) :
    exists polls result, polls ≤ answers + service.settings.failureLimit ∧
      Loops sink service polls result := by
  induction answers generalizing service with
  | zero =>
      have left := Nat.le_add_left service.settings.failureLimit service.failures
      rcases @loops_of_dead sink service _ limited dies left with ⟨polls, result, few, loops⟩
      exact ⟨polls, result, by omega, loops⟩
  | succ answers inductionHypothesis =>
      rcases loops_or_goesOn sink service with ⟨polls, result, few, loops⟩ | ⟨next, running, goesOn⟩
      · exact ⟨polls, result, by omega, loops⟩
      · rcases moved_of_goesOn goesOn with ⟨scene, moved⟩
        have settings := settings_of_goesOn goesOn
        rcases inductionHypothesis (settings ▸ limited) (dies.of_tail moved.heads) with
          ⟨polls, result, few, loops⟩
        rw [settings] at few
        exact ⟨polls + 1, result, by omega, .more running goesOn loops⟩

/-! ## The law of dead stores -/

/-- What a run makes of the end of its loop. -/
def concluded : EStateM.Result Failure Service Unit -> EStateM.Result Failure Service Unit
  | .ok () after => .ok () after.finished
  | .error failure after => .error failure after

/-- A service with a limit on its failures, whose store dies after a number of requests for metadata, comes
to the end of its loop by itself, with success or with a failure that goes through.  Until then it polls at
most as often as the store answers and as many times more as the limit says, whatever the first replies
are, whatever content is served and how it breaks, and whoever asks it to stop.  With that many rounds or
more a run is this loop. -/
theorem bounded_on_dead_store {start : Service} {sink : Sink} (ready : start.watcher.isSome = true)
    (isSink : start.sink = some sink) (limited : 0 < start.settings.failureLimit) {answers : Nat}
    (dies : start.around.remote.DiesAfter answers) :
    exists polls result, polls ≤ answers + start.settings.failureLimit ∧
      Loops sink start.started polls result ∧
      forall rounds, polls ≤ rounds ->
        runFor rounds start = concluded result ∧ (start.started.polls sink rounds).length = polls := by
  have limitedStarted : 0 < start.started.settings.failureLimit := limited
  have diesStarted : start.started.around.remote.DiesAfter answers := dies
  rcases @loops_of_dies sink start.started answers limitedStarted diesStarted with
    ⟨polls, result, few, loops⟩
  refine ⟨polls, result, few, loops, fun rounds enough => ?_⟩
  rcases loops.pollRounds_eq enough with ⟨same, length⟩
  refine ⟨?_, length⟩
  rw [runFor_eq ready isSink, same]
  cases result with
  | ok value after => rfl
  | error failure after => rfl

/-- A service that bears two failures, and a store that answers once and is reset then. -/
def forsaken : Service where
  settings := { bucket := "b", key := "k", failureLimit := 2 }
  watcher := some
    { target := { bucket := "b", key := "k" }
      credentials := some (Credentials.resolve { bucket := "b", key := "k" } []) }
  sink := some .output
  around :=
    { remote :=
        { heads :=
            [{ outcome := .ok { tag := some "first" } },
              { outcome := .error (.system .connectionReset "reset") }]
          gets := [{ outcome := .ok { body := some (.ofBytes [1]) } }] } }

/-- Three polls are made, and no number of rounds makes them more. -/
theorem bounded_on_dead_store_forsaken :
    exists result, Loops .output forsaken.started 3 result ∧
      forall rounds, 3 ≤ rounds -> runFor rounds forsaken = concluded result := by
  have dies : forsaken.around.remote.DiesAfter 1 := by
    intro reply member
    cases List.mem_singleton.mp member
    exact ⟨_, rfl⟩
  rcases @bounded_on_dead_store forsaken .output rfl rfl (by decide) 1 dies with
    ⟨polls, result, few, loops, ends⟩
  have three : (forsaken.started.polls .output 3).length = 3 := by decide +kernel
  have same : polls = 3 := (ends 3 few).2.symm.trans three
  subst same
  exact ⟨result, loops, fun rounds enough => (ends rounds enough).1⟩

end Service
end ObjectWatch
