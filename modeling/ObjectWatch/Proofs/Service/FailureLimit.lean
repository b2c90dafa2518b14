import Mathlib.Data.List.DropRight
import ObjectWatch.Proofs.Service.Round

/-!
# The limit on failures

A service counts the failures since the last poll that did not fail, and gives up when there are as many
as its limit allows.  The count is kept in two handlers and reset in two places.  Here it is compared
with the outcomes of the polls, which are told from what the watcher and the sink gave and not from the
count: after every poll the count is the length of the longest stretch of failures at the end of the
outcomes so far.

So the service gives up with the first outcome that makes this stretch as long as the limit.  It polls no
more then, and nothing else marks it as failed.  A poll that was cancelled, or whose failure goes through,
has no outcome, and a run ends with it.
-/

namespace ObjectWatch

/-- What became of a poll that the service carried through. -/
inductive PollOutcome where
  /-- A request failed, or the content could not be opened. -/
  | failed
  | unchanged
  | written
  /-- The transfer broke while the sink took the content. -/
  | unwritten
deriving DecidableEq, Repr

namespace PollOutcome

/-- Whether an outcome counts as a failure. -/
def isFailure : PollOutcome -> Bool
  | failed => true
  | unwritten => true
  | _ => false

/-- The length of the longest stretch of failures at the end. -/
def failing (outcomes : List PollOutcome) : Nat := (outcomes.rtakeWhile isFailure).length

/-- The outcomes end in as many failures as a limit allows.  The limit zero is none. -/
def Exhaust (limit : Nat) (outcomes : List PollOutcome) : Prop := 0 < limit ∧ failing outcomes = limit

instance (limit : Nat) (outcomes : List PollOutcome) : Decidable (Exhaust limit outcomes) :=
  inferInstanceAs (Decidable (_ ∧ _))

theorem failing_concat (outcomes : List PollOutcome) (outcome : PollOutcome) :
    failing (outcomes ++ [outcome]) = if outcome.isFailure then failing outcomes + 1 else 0 := by
  unfold failing
  rw [List.rtakeWhile_concat]
  cases outcome.isFailure with
  | true => rw [if_pos rfl, if_pos rfl, List.length_append, List.length_singleton]
  | false => rfl

end PollOutcome

open PollOutcome (failing Exhaust failing_concat)

namespace Service

/-- What became of the poll of a service: by what the watcher returned, and by what the sink did with the
content. -/
def pollOutcome? (sink : Sink) (service : Service) : Option PollOutcome :=
  service.scene?.bind fun scene =>
    match Watcher.poll scene with
    | .error failure _ => if failure.report.isCounted then some .failed else none
    | .ok none _ => some .unchanged
    | .ok (some content) _ =>
        match sink.deliver ⟨content, service.storage⟩ with
        | .ok _ _ => some .written
        | .error fault _ => if fault.spoilsStream then some .unwritten else none

/-- The outcomes of polls. -/
def pollOutcomes (sink : Sink) (polls : List Service) : List PollOutcome :=
  polls.filterMap (pollOutcome? sink)

/-- By the end of its poll the service was not asked to stop. -/
def StaysRunning (service : Service) : Prop :=
  exists scene, service.scene? = some scene ∧ (stateOf (Watcher.poll scene)).around.running = true

/-- A round with an outcome was counted. -/
structure Counts (service : Service) (outcome : PollOutcome) (next : Service) : Prop where
  settings : next.settings = service.settings
  failures : next.failures = if outcome.isFailure then service.failures + 1 else 0
  failed : next.failed = true ↔ service.failed = true ∨ next.ReachesLimit
  running : next.around.running = true ↔ ¬ next.ReachesLimit ∧ service.StaysRunning

variable {sink : Sink} {service : Service}

/-! ## One round -/

theorem staysRunning_iff {scene : Scene} (isScene : service.scene? = some scene) :
    service.StaysRunning ↔ (stateOf (Watcher.poll scene)).around.running = true := by
  constructor
  · rintro ⟨other, same, running⟩
    rw [isScene] at same
    cases same
    exact running
  · exact fun running => ⟨scene, isScene, running⟩

/-- A service without failures bears more of them. -/
theorem not_reachesLimit_of_zero (zero : service.failures = 0) : ¬ service.ReachesLimit := by
  rintro ⟨positive, reached⟩
  omega

/-- A failure is counted, whatever became of the storage. -/
theorem counts_troubled {scene after : Scene} (isScene : service.scene? = some scene)
    (ended : stateOf (Watcher.poll scene) = after) (place : Storage)
    (notice : Report -> Nat -> Notice) (report : Report) {outcome : PollOutcome}
    (fails : outcome.isFailure = true) :
    service.Counts outcome
      ({ service.withScene after with storage := place }.troubled notice report) where
  settings := troubled_settings notice report _
  failures := by
    rw [troubled_failures, if_pos fails]
    rfl
  failed := troubled_failed_iff notice report _
  running := by
    rw [staysRunning_iff isScene, ended, ← Bool.not_eq_false, troubled_running_iff, not_or,
      Bool.not_eq_false]
    rfl

/-- An outcome that is no failure is counted, whatever became of the storage and whatever was noted. -/
theorem counts_untroubled {scene after : Scene} (isScene : service.scene? = some scene)
    (ended : stateOf (Watcher.poll scene) = after) (place : Storage) (around : Surroundings)
    (running : around.running = after.around.running) {outcome : PollOutcome}
    (succeeds : outcome.isFailure = false) :
    service.Counts outcome
      { service.withScene after with storage := place, failures := 0, around } where
  settings := rfl
  failures := by rw [succeeds, if_neg Bool.false_ne_true]
  failed := (or_iff_left (not_reachesLimit_of_zero rfl)).symm
  running := by
    rw [staysRunning_iff isScene, ended, and_iff_right (not_reachesLimit_of_zero rfl), running]

/-- A round is counted by its outcome, and the service goes on if its poll has one.  A round without
outcome ends the run and counts nothing. -/
theorem pollOnce_counts (sink : Sink) (service : Service) :
    (exists outcome next, service.pollOutcome? sink = some outcome ∧
        pollOnce sink service = .ok true next ∧ service.Counts outcome next) ∨
      (service.pollOutcome? sink = none ∧ (forall next, pollOnce sink service ≠ .ok true next) ∧
        (stateOf (pollOnce sink service)).failures = service.failures ∧
        (stateOf (pollOnce sink service)).failed = service.failed) := by
  have course := round_course sink service
  generalize pollOnce sink service = result at course
  cases course with
  | notReady absent =>
      refine .inr ⟨?_, fun _ => nofun, rfl, rfl⟩
      rw [pollOutcome?, absent, Option.bind_none]
  | unchanged scene after isScene polled =>
      refine .inl ⟨.unchanged, _, ?_, rfl,
        counts_untroubled isScene (congrArg stateOf polled) service.storage after.around rfl rfl⟩
      rw [pollOutcome?, isScene, Option.bind_some, polled]
  | failed scene after failure isScene polled counted =>
      refine .inl ⟨.failed, _, ?_, rfl,
        counts_troubled isScene (congrArg stateOf polled) service.storage _ _ rfl⟩
      rw [pollOutcome?, isScene, Option.bind_some, polled]
      exact if_pos counted
  | cancelled scene after failure isScene polled cancels =>
      have uncounted : ¬ failure.report.isCounted = true := by
        have kind : failure.report.watchKind? = some .cancelled := of_decide_eq_true cancels
        rw [Report.isCounted, kind]
        exact Bool.false_ne_true
      refine .inr ⟨?_, fun _ => nofun, rfl, rfl⟩
      rw [pollOutcome?, isScene, Option.bind_some, polled]
      exact if_neg uncounted
  | escaped scene after failure isScene polled uncounted uncancelled =>
      refine .inr ⟨?_, fun _ => nofun, rfl, rfl⟩
      rw [pollOutcome?, isScene, Option.bind_some, polled]
      exact if_neg (by rw [uncounted]; exact Bool.false_ne_true)
  | written scene after content size done isScene polled delivers =>
      refine .inl ⟨.written, _, ?_, rfl,
        counts_untroubled isScene (congrArg stateOf polled) done.place
          (after.around.note (.written size after.watcher.progress.token)) rfl rfl⟩
      rw [pollOutcome?, isScene, Option.bind_some, polled]
      dsimp only
      rw [delivers]
  | unwritten scene after content fault done isScene polled fails spoils =>
      refine .inl ⟨.unwritten, _, ?_, rfl,
        counts_troubled isScene (congrArg stateOf polled) done.place _ _ rfl⟩
      rw [pollOutcome?, isScene, Option.bind_some, polled]
      dsimp only
      rw [fails]
      exact if_pos spoils
  | broken scene after content fault done isScene polled fails unrelated =>
      refine .inr ⟨?_, fun _ => nofun, rfl, rfl⟩
      rw [pollOutcome?, isScene, Option.bind_some, polled]
      dsimp only
      rw [fails]
      exact if_neg (by rw [unrelated]; exact Bool.false_ne_true)

/-! ## A whole run -/

theorem pollOutcomes_concat (polls : List Service) {outcome : PollOutcome}
    (ended : service.pollOutcome? sink = some outcome) :
    pollOutcomes sink (polls ++ [service]) = pollOutcomes sink polls ++ [outcome] := by
  unfold pollOutcomes
  rw [List.filterMap_append, List.filterMap_cons_some ended, List.filterMap_nil]

variable {start : Service} {rounds : Nat} {before later : List Service}

/-- The count that a poll begins with is what the outcomes before it say, and the limit was not reached
by then. -/
theorem failures_of_polls (fresh : start.failures = 0)
    (turns : start.polls sink rounds = before ++ service :: later) :
    service.failures = failing (pollOutcomes sink before) ∧ ¬ service.ReachesLimit ∧
      service.settings = start.settings ∧ service.failed = start.failed := by
  induction before using List.reverseRecOn generalizing service later with
  | nil =>
      rcases eq_of_first_poll turns with ⟨rfl, _⟩
      exact ⟨fresh, not_reachesLimit_of_zero fresh, rfl, rfl⟩
  | append_singleton earlier previous inductionHypothesis =>
      rw [List.append_assoc, List.singleton_append] at turns
      rcases inductionHypothesis turns with ⟨failures, _, settings, failed⟩
      rcases goesOn_of_polls turns with ⟨goesOn, running⟩
      rcases pollOnce_counts sink previous with ⟨outcome, next, ended, same, counts⟩ | ⟨_, stops, _⟩
      · rw [goesOn] at same
        cases same
        -- the service polls again, so it had not reached the limit
        have bears := (counts.running.mp running).1
        refine ⟨?_, bears, counts.settings.trans settings, ?_⟩
        · rw [counts.failures, pollOutcomes_concat earlier ended, failing_concat, failures]
        · rw [Bool.eq_iff_iff, counts.failed, or_iff_left bears, failed]
      · exact absurd goesOn (stops service)

/-- The limit is reached by a poll if and only if the outcomes up to it end in as many failures. -/
theorem counts_of_polls (fresh : start.failures = 0)
    (turns : start.polls sink rounds = before ++ service :: later) {outcome : PollOutcome}
    (ended : service.pollOutcome? sink = some outcome) :
    exists next, pollOnce sink service = .ok true next ∧ service.Counts outcome next ∧
      next.failures = failing (pollOutcomes sink (before ++ [service])) ∧
      (next.ReachesLimit ↔
        Exhaust start.settings.failureLimit (pollOutcomes sink (before ++ [service]))) := by
  rcases failures_of_polls fresh turns with ⟨failures, bears, settings, _⟩
  rcases pollOnce_counts sink service with ⟨same, next, isOutcome, goesOn, counts⟩ | ⟨without, _⟩
  · rw [ended] at isOutcome
    cases isOutcome
    have count : next.failures = failing (pollOutcomes sink (before ++ [service])) := by
      rw [counts.failures, pollOutcomes_concat before ended, failing_concat, failures]
    refine ⟨next, goesOn, counts, count, ?_⟩
    -- the count grows by one at most, so it does not jump over the limit
    have step := counts.failures
    rw [Exhaust, ← count, ReachesLimit, counts.settings, settings]
    rw [ReachesLimit, settings] at bears
    cases fails : outcome.isFailure with
    | true =>
        rw [fails, if_pos rfl] at step
        omega
    | false =>
        rw [fails, if_neg Bool.false_ne_true] at step
        omega
  · rw [ended] at without
    cases without

/-- What a run leaves is counted like its last round. -/
theorem pollRounds_counts (fresh : start.failures = 0) (sink : Sink) (rounds : Nat) :
    (stateOf (pollRounds sink rounds start)).failures =
        failing (pollOutcomes sink (start.polls sink rounds)) ∧
      ((stateOf (pollRounds sink rounds start)).failed = true ↔ start.failed = true ∨
        Exhaust start.settings.failureLimit (pollOutcomes sink (start.polls sink rounds))) := by
  rcases List.eq_nil_or_concat (start.polls sink rounds) with idle | ⟨before, service, turns⟩
  · rw [pollRounds_of_no_polls idle, idle]
    refine ⟨fresh, (or_iff_left ?_).symm⟩
    rintro ⟨positive, reached⟩
    exact absurd positive (Nat.not_lt_of_le (Nat.le_of_eq reached.symm))
  · rw [List.concat_eq_append] at turns
    rw [stateOf_pollRounds_of_last turns, turns]
    rcases failures_of_polls fresh turns with ⟨failures, bears, settings, failed⟩
    rcases pollOnce_counts sink service with ⟨outcome, next, ended, _⟩ | ⟨without, _, same, sameMark⟩
    · rcases counts_of_polls fresh turns ended with ⟨next, goesOn, counts, count, reaches⟩
      rw [goesOn]
      exact ⟨count, by rw [← reaches, ← failed]; exact counts.failed⟩
    · have outcomes : pollOutcomes sink (before ++ [service]) = pollOutcomes sink before := by
        unfold pollOutcomes
        rw [List.filterMap_append, List.filterMap_cons_none without, List.filterMap_nil,
          List.append_nil]
      rw [outcomes, same, sameMark, ← failures, failed]
      refine ⟨rfl, (or_iff_left ?_).symm⟩
      rintro ⟨positive, reached⟩
      rw [← failures, ← settings] at reached
      rw [← settings] at positive
      exact bears ⟨positive, Nat.le_of_eq reached.symm⟩

/-- In a run that begins without failures, the count after every poll is the length of the longest
stretch of failures at the end of the outcomes so far.  The service is marked as failed with exactly the
first outcome that makes this stretch as long as its limit.  It polls no more then, and the run comes to
its end.  After any other outcome it polls again unless it was asked to stop, as long as the run has
rounds left.  No other end of the run, orderly or not, marks it as failed. -/
theorem gives_up_at_limit {start : Service} (ready : start.watcher.isSome = true)
    (isSink : start.sink = some sink) (fresh : start.failures = 0) (rounds : Nat) :
    (forall before service later outcome,
      start.started.polls sink rounds = before ++ service :: later ->
      service.pollOutcome? sink = some outcome ->
      exists next, pollOnce sink service = .ok true next ∧
        next.failures = failing (pollOutcomes sink (before ++ [service])) ∧
        (next.failed = true ↔ start.failed = true ∨
          Exhaust start.settings.failureLimit (pollOutcomes sink (before ++ [service]))) ∧
        (Exhaust start.settings.failureLimit (pollOutcomes sink (before ++ [service])) ->
          later = [] ∧ runFor rounds start = .ok () next.finished) ∧
        (¬ Exhaust start.settings.failureLimit (pollOutcomes sink (before ++ [service])) ->
          (later.head? = some next ↔ service.StaysRunning ∧ before.length + 1 < rounds))) ∧
      (forall service, service ∈ start.started.polls sink rounds -> service.failed = start.failed) ∧
      (stateOf (runFor rounds start)).failures =
        failing (pollOutcomes sink (start.started.polls sink rounds)) ∧
      ((stateOf (runFor rounds start)).failed = true ↔ start.failed = true ∨
        Exhaust start.settings.failureLimit
          (pollOutcomes sink (start.started.polls sink rounds))) := by
  have beginning : start.started.failures = 0 := fresh
  refine ⟨?_, ?_, ?_⟩
  · intro before service later outcome turns ended
    rcases counts_of_polls beginning turns ended with ⟨next, goesOn, counts, count, reaches⟩
    have exhausts : next.ReachesLimit ↔
        Exhaust start.settings.failureLimit (pollOutcomes sink (before ++ [service])) := reaches
    rcases failures_of_polls beginning turns with ⟨_, _, _, mark⟩
    rcases pollRounds_of_polls turns with ⟨left, same, _, rest, _⟩
    have following := head?_polls sink left next
    have others : later = next.polls sink left := by
      rw [goesOn] at rest
      exact rest
    rw [← others] at following
    refine ⟨next, goesOn, count, ?_, ?_, ?_⟩
    · rw [counts.failed, mark, exhausts]
      rfl
    · intro exhausted
      have stopped : ¬ (next.around.running = true ∧ 0 < left) := fun both =>
        (counts.running.mp both.1).1 (exhausts.mpr exhausted)
      rw [if_neg stopped, List.head?_eq_none_iff] at following
      refine ⟨following, ?_⟩
      rw [following] at turns
      rw [runFor_eq ready isSink, pollRounds_of_last turns, goesOn]
    · intro bears
      have goes : next.around.running = true ↔ service.StaysRunning := by
        rw [counts.running, exhausts, and_iff_right bears]
      have roundsLeft : 0 < left ↔ before.length + 1 < rounds := by omega
      rw [following, ← goes, ← roundsLeft]
      split
      · rename_i both
        exact iff_of_true rfl both
      · rename_i ends
        exact iff_of_false nofun ends
  · intro service member
    rcases List.append_of_mem member with ⟨before, later, turns⟩
    exact (failures_of_polls beginning turns).2.2.2
  · have left := pollRounds_counts beginning sink rounds
    rw [runFor_eq ready isSink]
    cases ended : pollRounds sink rounds start.started with
    | ok _ after =>
        rw [ended] at left
        exact left
    | error failure after =>
        rw [ended] at left
        exact left

/-- Two bytes of a body before the stream breaks. -/
def brokenContent : Body := { rest := [1, 2], failure := some (.brokenBody "cut") }

/-- A service that bears one failure but not two in a row.  A probe fails, the next one tells nothing new,
the content of a version breaks in the sink, and a probe fails again before the object is well. -/
def beforeStreak : Service where
  settings := { bucket := "b", key := "k", failureLimit := 2 }
  watcher := some
    { target := { bucket := "b", key := "k" }
      credentials := some (Credentials.resolve { bucket := "b", key := "k" } []) }
  sink := some .output
  around :=
    { remote :=
        { heads :=
            [{ outcome := .error (.system .timeout "slow") }, { outcome := .ok {} },
              { outcome := .ok { tag := some "first" } },
              { outcome := .error (.system .connection "reset") },
              { outcome := .ok { tag := some "second" } }]
          gets :=
            [{ outcome := .ok { body := some brokenContent } },
              { outcome := .ok { body := some (.ofBytes [3]) } }] } }

/-- The service gives up with the fourth poll, when two failures follow on each other, and the first
failure does not count any more. -/
theorem gives_up_at_limit_after_streak :
    beforeStreak.watcher.isSome = true ∧ beforeStreak.sink = some .output ∧
      beforeStreak.failures = 0 ∧
      pollOutcomes .output (beforeStreak.started.polls .output 6) =
        [.failed, .unchanged, .unwritten, .failed] ∧
      (stateOf (runFor 6 beforeStreak)).failures = 2 ∧
      (stateOf (runFor 6 beforeStreak)).failed = true := by
  have outcomes : pollOutcomes .output (beforeStreak.started.polls .output 6) =
      [.failed, .unchanged, .unwritten, .failed] := by decide +kernel
  rcases @gives_up_at_limit .output beforeStreak rfl rfl rfl 6 with ⟨_, _, failures, failed⟩
  rw [outcomes] at failures failed
  have exhausted : Exhaust 2 [.failed, .unchanged, .unwritten, .failed] := by decide
  exact ⟨rfl, rfl, rfl, outcomes, failures, failed.mpr (.inr exhausted)⟩

end Service
end ObjectWatch
