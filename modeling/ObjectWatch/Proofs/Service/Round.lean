import ObjectWatch.Proofs.Watcher.Outcomes
import ObjectWatch.Service.Basic

/-!
# The rounds of a service

In each round a service polls once and deals with what came of it.  `RoundCourse` lists the ways in
which a round can end together with the service that each of them leaves, and `round_course` says that
every round ends in one of them.

A run goes through rounds for as long as the service is running and each round says that it goes on.
`polls` lists the services at the beginning of the rounds of a run, and a run can be entered at any of
them.
-/

namespace ObjectWatch

namespace Report

/-- A failure of a request or of decoding is counted, and the service goes on. -/
def isCounted (report : Report) : Bool :=
  match report.watchKind? with
  | some .probe => true
  | some .retrieval => true
  | some .decode => true
  | _ => false

/-- The end of a poll that was cancelled. -/
def isCancelled (report : Report) : Bool := report.watchKind? = some .cancelled

end Report

namespace Service

/-- The watcher of the service and what surrounds it. -/
def scene? (service : Service) : Option Scene :=
  service.watcher.map fun watcher => { watcher, around := service.around }

/-- What was told so far about what became of polls. -/
def outcomes (service : Service) : List Notice := service.around.outcomes

/-- Something was noted. -/
def noted (notice : Notice) (service : Service) : Service :=
  { service with around := service.around.note notice }

/-- There are as many failures as the service bears. -/
def ReachesLimit (service : Service) : Prop :=
  0 < service.settings.failureLimit ∧ service.settings.failureLimit ≤ service.failures

instance (service : Service) : Decidable service.ReachesLimit := inferInstanceAs (Decidable (_ ∧ _))

/-- A failure was counted and told. -/
def failedAgain (notice : Report -> Nat -> Notice) (report : Report) (service : Service) : Service :=
  { service with failures := service.failures + 1 }.noted (notice report (service.failures + 1))

/-- A failure was counted and told, and the service gave up if that was one too many. -/
def troubled (notice : Report -> Nat -> Notice) (report : Report) (service : Service) : Service :=
  let service := service.failedAgain notice report
  if service.ReachesLimit then
    { service.noted (.limitReached service.settings.failureLimit) with
      failed := true, around.running := false }
  else service

/-- Content was delivered. -/
def delivered (place : Storage) (size : Nat) (token : String) (service : Service) : Service :=
  { service with storage := place, failures := 0 }.noted (.written size token)

/-! ## The parts of these services -/

@[simp] theorem noted_outcomes (notice : Notice) (service : Service) :
    (service.noted notice).outcomes =
      service.outcomes ++ if notice.isOutcome then [notice] else [] :=
  service.around.note_outcomes notice

@[simp] theorem troubled_failures (notice : Report -> Nat -> Notice) (report : Report)
    (service : Service) : (service.troubled notice report).failures = service.failures + 1 := by
  unfold troubled
  dsimp only
  split <;> rfl

@[simp] theorem troubled_settings (notice : Report -> Nat -> Notice) (report : Report)
    (service : Service) : (service.troubled notice report).settings = service.settings := by
  unfold troubled
  dsimp only
  split <;> rfl

@[simp] theorem troubled_storage (notice : Report -> Nat -> Notice) (report : Report)
    (service : Service) : (service.troubled notice report).storage = service.storage := by
  unfold troubled
  dsimp only
  split <;> rfl

@[simp] theorem troubled_watcher (notice : Report -> Nat -> Notice) (report : Report)
    (service : Service) : (service.troubled notice report).watcher = service.watcher := by
  unfold troubled
  dsimp only
  split <;> rfl

/-- Trouble touches nothing in the surroundings but the journal and whether the service is to go on. -/
theorem troubled_around (notice : Report -> Nat -> Notice) (report : Report) (service : Service) :
    exists journal running, (service.troubled notice report).around =
      { service.around with journal, running } := by
  unfold troubled
  dsimp only
  split
  · exact ⟨_, false, rfl⟩
  · exact ⟨_, service.around.running, rfl⟩

@[simp] theorem troubled_sink (notice : Report -> Nat -> Notice) (report : Report)
    (service : Service) : (service.troubled notice report).sink = service.sink := by
  unfold troubled
  dsimp only
  split <;> rfl

/-- The failure is told, and that the service gave up is told in another way. -/
theorem troubled_outcomes {notice : Report -> Nat -> Notice} {report : Report} (service : Service)
    (told : forall failures, (notice report failures).isOutcome = true) :
    (service.troubled notice report).outcomes =
      service.outcomes ++ [notice report (service.failures + 1)] := by
  have counted : (service.failedAgain notice report).outcomes =
      service.outcomes ++ [notice report (service.failures + 1)] := by
    unfold failedAgain
    rw [noted_outcomes, told]
    rfl
  unfold troubled
  dsimp only
  split
  · refine Eq.trans ?_ counted
    exact (noted_outcomes _ _).trans (List.append_nil _)
  · exact counted

theorem troubled_reachesLimit_iff (notice : Report -> Nat -> Notice) (report : Report)
    (service : Service) :
    (service.troubled notice report).ReachesLimit ↔
      (service.failedAgain notice report).ReachesLimit := by
  unfold ReachesLimit
  rw [troubled_failures, troubled_settings]
  rfl

/-- A service in trouble stops if it gives up. -/
theorem troubled_running_iff (notice : Report -> Nat -> Notice) (report : Report)
    (service : Service) :
    (service.troubled notice report).around.running = false ↔
      (service.troubled notice report).ReachesLimit ∨ service.around.running = false := by
  rw [troubled_reachesLimit_iff]
  unfold troubled
  dsimp only
  split
  · rename_i reaches
    exact ⟨fun _ => .inl reaches, fun _ => rfl⟩
  · rename_i bears
    exact ⟨.inr, fun either => either.resolve_left bears⟩

/-- A service in trouble is marked as failed if it gives up. -/
theorem troubled_failed_iff (notice : Report -> Nat -> Notice) (report : Report)
    (service : Service) :
    (service.troubled notice report).failed = true ↔
      service.failed = true ∨ (service.troubled notice report).ReachesLimit := by
  rw [troubled_reachesLimit_iff]
  unfold troubled
  dsimp only
  split
  · rename_i reaches
    exact ⟨fun _ => .inr reaches, fun _ => rfl⟩
  · rename_i bears
    exact ⟨.inl, fun either => either.resolve_right bears⟩

end Service

/-- How the end of a round looks.  The value says whether the service goes on. -/
abbrev RoundEnd := EStateM.Result Failure Service Bool

/-- The ways in which a round can end. -/
inductive RoundCourse (sink : Sink) (service : Service) : RoundEnd -> Prop where
  | notReady (absent : service.scene? = none) :
      RoundCourse sink service (.error .serviceNotReady service)
  | unchanged (scene after : Scene) (isScene : service.scene? = some scene)
      (polled : Watcher.poll scene = .ok none after) :
      RoundCourse sink service (.ok true { service.withScene after with failures := 0 })
  | failed (scene after : Scene) (failure : Failure) (isScene : service.scene? = some scene)
      (polled : Watcher.poll scene = .error failure after)
      (counted : failure.report.isCounted = true) :
      RoundCourse sink service
        (.ok true ((service.withScene after).troubled .pollFailed failure.report))
  | cancelled (scene after : Scene) (failure : Failure) (isScene : service.scene? = some scene)
      (polled : Watcher.poll scene = .error failure after)
      (cancels : failure.report.isCancelled = true) :
      RoundCourse sink service (.ok false ((service.withScene after).noted .pollingCancelled))
  | escaped (scene after : Scene) (failure : Failure) (isScene : service.scene? = some scene)
      (polled : Watcher.poll scene = .error failure after)
      (uncounted : failure.report.isCounted = false)
      (uncancelled : failure.report.isCancelled = false) :
      RoundCourse sink service (.error failure (service.withScene after))
  | written (scene after : Scene) (content : Content) (size : Nat) (done : Transfer Storage)
      (isScene : service.scene? = some scene)
      (polled : Watcher.poll scene = .ok (some content) after)
      (delivers : sink.deliver ⟨content, service.storage⟩ = .ok size done) :
      RoundCourse sink service (.ok true
        ((service.withScene after).delivered done.place size after.watcher.progress.token))
  | unwritten (scene after : Scene) (content : Content) (fault : Fault) (done : Transfer Storage)
      (isScene : service.scene? = some scene)
      (polled : Watcher.poll scene = .ok (some content) after)
      (fails : sink.deliver ⟨content, service.storage⟩ = .error fault done)
      (spoils : fault.spoilsStream = true) :
      RoundCourse sink service (.ok true
        ({ service.withScene after with storage := done.place }.troubled .writingFailed
          (.ofFault fault)))
  | broken (scene after : Scene) (content : Content) (fault : Fault) (done : Transfer Storage)
      (isScene : service.scene? = some scene)
      (polled : Watcher.poll scene = .ok (some content) after)
      (fails : sink.deliver ⟨content, service.storage⟩ = .error fault done)
      (unrelated : fault.spoilsStream = false) :
      RoundCourse sink service
        (.error (.foreign fault) { service.withScene after with storage := done.place })

namespace Service

/-! ## The parts of a round -/

theorem recordFailure_apply (notice : Report -> Nat -> Notice) (report : Report) (service : Service) :
    recordFailure notice report service = .ok () (service.troubled notice report) := by
  have counted : recordFailure notice report service =
      (if (service.failedAgain notice report).ReachesLimit then do
          note (.limitReached (service.failedAgain notice report).settings.failureLimit)
          modify fun service => { service with failed := true, around.running := false }
        else return () : Serving Unit) (service.failedAgain notice report) := rfl
  rw [counted]
  unfold troubled
  dsimp only
  split
  · rfl
  · rfl

theorem handleFailure_apply (failure : Failure) (service : Service) :
    handleFailure failure service =
      if failure.report.isCancelled then .ok false (service.noted .pollingCancelled)
      else if failure.report.isCounted then .ok true (service.troubled .pollFailed failure.report)
      else .error failure service := by
  have counts := recordFailure_apply .pollFailed failure.report service
  unfold handleFailure Report.isCancelled Report.isCounted
  cases failure.report.watchKind? with
  | none => rfl
  | some kind =>
      cases kind with
      | cancelled => rfl
      | probe => exact bind_of_ok counts _
      | retrieval => exact bind_of_ok counts _
      | decode => exact bind_of_ok counts _
      | general => rfl
      | configuration => rfl

theorem deliver_of_ok {service : Service} {sink : Sink} {content : Content} {size : Nat}
    {done : Transfer Storage} (delivers : sink.deliver ⟨content, service.storage⟩ = .ok size done) :
    deliver sink content service = .ok (.ok size) { service with storage := done.place } := by
  rw [deliver, delivers]

theorem deliver_of_error {service : Service} {sink : Sink} {content : Content} {fault : Fault}
    {done : Transfer Storage} (fails : sink.deliver ⟨content, service.storage⟩ = .error fault done) :
    deliver sink content service = .ok (.error fault) { service with storage := done.place } := by
  rw [deliver, fails]

theorem publish_of_ok {service : Service} {sink : Sink} {content : Content} {size : Nat}
    {done : Transfer Storage} (delivers : sink.deliver ⟨content, service.storage⟩ = .ok size done) :
    publish sink content service = .ok () (service.delivered done.place size service.lastToken) := by
  rw [publish, bind_of_ok (deliver_of_ok delivers)]
  rfl

theorem publish_of_error {service : Service} {sink : Sink} {content : Content} {fault : Fault}
    {done : Transfer Storage} (fails : sink.deliver ⟨content, service.storage⟩ = .error fault done) :
    publish sink content service =
      if fault.spoilsStream then
        .ok () ({ service with storage := done.place }.troubled .writingFailed (.ofFault fault))
      else .error (.foreign fault) { service with storage := done.place } := by
  rw [publish, bind_of_ok (deliver_of_error fails)]
  cases spoils : fault.spoilsStream with
  | true =>
      simp only [spoils, Bool.not_true, Bool.false_eq_true, if_false, if_true]
      exact recordFailure_apply _ _ _
  | false =>
      simp only [spoils, Bool.not_false, if_true, Bool.false_eq_true, if_false]
      rfl

theorem attempt_apply {α : Type} (watcher : Watcher) (act : Act α) (service : Service) :
    attempt watcher act service =
      match act { watcher, around := service.around } with
      | .ok value scene => .ok (.ok value) (service.withScene scene)
      | .error failure scene => .ok (.error failure) (service.withScene scene) := rfl

theorem pollOnce_of_scene {service : Service} {sink : Sink} {scene : Scene}
    (isScene : service.scene? = some scene) :
    pollOnce sink service =
      match Watcher.poll scene with
      | .error failure after => handleFailure failure (service.withScene after)
      | .ok none after => .ok true { service.withScene after with failures := 0 }
      | .ok (some content) after =>
          (publish sink content *> pure true) (service.withScene after) := by
  rcases Option.map_eq_some_iff.mp isScene with ⟨watcher, isWatcher, rfl⟩
  unfold pollOnce
  rw [bind_apply, get_apply]
  dsimp only
  rw [isWatcher]
  dsimp only
  rw [bind_apply, attempt_apply]
  cases Watcher.poll { watcher, around := service.around } with
  | error failure after => rfl
  | ok content after =>
      cases content with
      | none => rfl
      | some content => rfl

theorem pollOnce_of_no_scene {service : Service} {sink : Sink} (absent : service.scene? = none) :
    pollOnce sink service = .error .serviceNotReady service := by
  have absent : service.watcher = none := Option.map_eq_none_iff.mp absent
  unfold pollOnce
  rw [bind_apply, get_apply]
  dsimp only
  rw [absent]
  rfl

/-- Every round ends in one of the ways, and leaves the service that it says. -/
theorem round_course (sink : Sink) (service : Service) :
    RoundCourse sink service (pollOnce sink service) := by
  cases isScene : service.scene? with
  | none =>
      rw [pollOnce_of_no_scene isScene]
      exact .notReady isScene
  | some scene =>
      have ended := @pollOnce_of_scene service sink scene isScene
      cases polled : Watcher.poll scene with
      | error failure after =>
          rw [polled] at ended
          dsimp only at ended
          rw [ended, handleFailure_apply]
          cases cancels : failure.report.isCancelled with
          | true => exact .cancelled scene after failure isScene polled cancels
          | false =>
              cases counted : failure.report.isCounted with
              | true => exact .failed scene after failure isScene polled counted
              | false => exact .escaped scene after failure isScene polled counted cancels
      | ok content after =>
          rw [polled] at ended
          cases content with
          | none =>
              rw [ended]
              exact .unchanged scene after isScene polled
          | some content =>
              dsimp only at ended
              rw [ended, seqRight_apply]
              cases delivers : sink.deliver ⟨content, service.storage⟩ with
              | ok size done =>
                  have publishes : publish sink content (service.withScene after) = _ :=
                    publish_of_ok delivers
                  rw [publishes]
                  exact .written scene after content size done isScene polled delivers
              | error fault done =>
                  have publishes : publish sink content (service.withScene after) = _ :=
                    publish_of_error delivers
                  rw [publishes]
                  cases spoils : fault.spoilsStream with
                  | true => exact .unwritten scene after content fault done isScene polled delivers spoils
                  | false => exact .broken scene after content fault done isScene polled delivers spoils

/-- A poll tells the service nothing. -/
theorem withScene_outcomes {service : Service} {scene : Scene} (isScene : service.scene? = some scene) :
    (service.withScene (stateOf (Watcher.poll scene))).outcomes = service.outcomes := by
  rcases Option.map_eq_some_iff.mp isScene with ⟨watcher, _, rfl⟩
  exact (poll_course _).outcomes_eq

/-! ## Runs -/

/-- The services at the beginning of the rounds of a run. -/
def polls (sink : Sink) : (rounds : Nat) -> Service -> List Service
  | 0, _ => []
  | rounds + 1, service =>
      if service.around.running then
        service :: match pollOnce sink service with
          | .ok true next => polls sink rounds next
          | _ => []
      else []

/-- A service polls if it is running and a round is left. -/
theorem head?_polls (sink : Sink) (rounds : Nat) (service : Service) :
    (service.polls sink rounds).head? =
      if service.around.running = true ∧ 0 < rounds then some service else none := by
  cases rounds with
  | zero => rw [if_neg fun both => absurd both.2 (Nat.lt_irrefl 0), polls, List.head?_nil]
  | succ rounds =>
      unfold polls
      cases running : service.around.running with
      | false => rw [if_neg Bool.false_ne_true, if_neg fun both => Bool.false_ne_true both.1, List.head?_nil]
      | true => rw [if_pos rfl, if_pos ⟨rfl, Nat.succ_pos rounds⟩, List.head?_cons]

theorem pollRounds_succ (sink : Sink) (rounds : Nat) (service : Service) :
    pollRounds sink (rounds + 1) service =
      if service.around.running then
        match pollOnce sink service with
        | .ok true next => pollRounds sink rounds next
        | .ok false next => .ok () next
        | .error failure next => .error failure next
      else .ok () service := by
  rw [pollRounds, bind_apply, get_apply]
  dsimp only
  cases service.around.running with
  | false => rfl
  | true =>
      simp only [Bool.not_true, Bool.false_eq_true, if_false, if_true]
      rw [bind_apply]
      cases pollOnce sink service with
      | error failure next => rfl
      | ok goesOn next =>
          cases goesOn with
          | true => rfl
          | false => rfl

/-- The services that polled before the first one that is listed last, and what is left of the run. -/
theorem pollRounds_of_polls {sink : Sink} {rounds : Nat} {start service : Service}
    {before later : List Service} (turns : start.polls sink rounds = before ++ service :: later) :
    exists left, rounds = before.length + (left + 1) ∧ service.around.running = true ∧
      later = (match pollOnce sink service with
        | .ok true next => next.polls sink left
        | _ => []) ∧
      pollRounds sink rounds start = pollRounds sink (left + 1) service := by
  induction before generalizing start rounds with
  | nil =>
      cases rounds with
      | zero => cases turns
      | succ rounds =>
          unfold polls at turns
          cases running : start.around.running with
          | false =>
              rw [running, if_neg Bool.false_ne_true] at turns
              cases turns
          | true =>
              rw [running, if_pos rfl] at turns
              cases turns
              exact ⟨rounds, (Nat.zero_add _).symm, running, rfl, rfl⟩
  | cons first before inductionHypothesis =>
      cases rounds with
      | zero => cases turns
      | succ rounds =>
          unfold polls at turns
          cases running : start.around.running with
          | false =>
              rw [running, if_neg Bool.false_ne_true] at turns
              cases turns
          | true =>
              rw [running, if_pos rfl, List.cons_append, List.cons.injEq] at turns
              rcases turns with ⟨rfl, turns⟩
              rw [pollRounds_succ, if_pos running]
              cases ended : pollOnce sink start with
              | error failure next =>
                  rw [ended] at turns
                  cases before <;> cases turns
              | ok goesOn next =>
                  rw [ended] at turns
                  cases goesOn with
                  | false => cases before <;> cases turns
                  | true =>
                      rcases inductionHypothesis turns with ⟨left, same, serving, rest, rounds⟩
                      refine ⟨left, ?_, serving, rest, rounds⟩
                      rw [same, List.length_cons]
                      omega

/-- The first poll is that of the service that the run began with. -/
theorem eq_of_first_poll {sink : Sink} {rounds : Nat} {start service : Service} {later : List Service}
    (turns : start.polls sink rounds = service :: later) :
    service = start ∧ service.around.running = true := by
  have first := head?_polls sink rounds start
  rw [turns, List.head?_cons] at first
  split at first
  · rename_i both
    cases first
    exact ⟨rfl, both.1⟩
  · cases first

/-- A service that polls after another one is what the round of that one left. -/
theorem goesOn_of_polls {sink : Sink} {rounds : Nat} {start previous service : Service}
    {before later : List Service}
    (turns : start.polls sink rounds = before ++ previous :: service :: later) :
    pollOnce sink previous = .ok true service ∧ service.around.running = true := by
  rcases pollRounds_of_polls turns with ⟨left, _, _, rest, _⟩
  cases ended : pollOnce sink previous with
  | error failure next =>
      rw [ended] at rest
      cases rest
  | ok goesOn next =>
      rw [ended] at rest
      cases goesOn with
      | false => cases rest
      | true =>
          rcases eq_of_first_poll rest.symm with ⟨rfl, running⟩
          exact ⟨rfl, running⟩

/-- A run without rounds leaves the service as it is. -/
theorem pollRounds_of_no_polls {sink : Sink} {rounds : Nat} {service : Service}
    (idle : service.polls sink rounds = []) :
    pollRounds sink rounds service = .ok () service := by
  cases rounds with
  | zero => rfl
  | succ rounds =>
      unfold polls at idle
      rw [pollRounds_succ]
      cases running : service.around.running with
      | false => rfl
      | true =>
          rw [running, if_pos rfl] at idle
          cases idle

/-- A run ends as its last round does. -/
theorem pollRounds_of_last {sink : Sink} {rounds : Nat} {start service : Service}
    {before : List Service} (turns : start.polls sink rounds = before ++ [service]) :
    pollRounds sink rounds start =
      match pollOnce sink service with
      | .ok _ next => .ok () next
      | .error failure next => .error failure next := by
  rcases pollRounds_of_polls turns with ⟨left, _, running, rest, same⟩
  rw [same, pollRounds_succ, if_pos running]
  cases ended : pollOnce sink service with
  | error failure next => rfl
  | ok goesOn next =>
      cases goesOn with
      | false => rfl
      | true =>
          rw [ended] at rest
          exact pollRounds_of_no_polls rest.symm

/-- A run leaves the service that its last round leaves. -/
theorem stateOf_pollRounds_of_last {sink : Sink} {rounds : Nat} {start service : Service}
    {before : List Service} (turns : start.polls sink rounds = before ++ [service]) :
    stateOf (pollRounds sink rounds start) = stateOf (pollOnce sink service) := by
  rw [pollRounds_of_last turns]
  cases pollOnce sink service with
  | ok goesOn next => rfl
  | error failure next => rfl

/-- Runs in which the same services poll end in the same way. -/
theorem pollRounds_congr {sink : Sink} {rounds other : Nat} {start : Service}
    (same : start.polls sink rounds = start.polls sink other) :
    pollRounds sink rounds start = pollRounds sink other start := by
  rcases List.eq_nil_or_concat (start.polls sink rounds) with idle | ⟨before, last, turns⟩
  · rw [pollRounds_of_no_polls idle, pollRounds_of_no_polls (same.symm.trans idle)]
  · rw [List.concat_eq_append] at turns
    rw [pollRounds_of_last turns, pollRounds_of_last (same.symm.trans turns)]

/-- A run has begun. -/
def started (service : Service) : Service :=
  { service with around.running := true }.noted .loopStarted

/-- A run has come to its end. -/
def finished (service : Service) : Service :=
  { service with around.running := false }.noted
    (.loopStopped ((service.watcher.map Watcher.tally).getD {}))

theorem runFor_eq {service : Service} {sink : Sink} (ready : service.watcher.isSome = true)
    (isSink : service.sink = some sink) (rounds : Nat) :
    runFor rounds service =
      match pollRounds sink rounds service.started with
      | .ok () after => .ok () after.finished
      | .error failure after => .error failure after := by
  rcases Option.isSome_iff_exists.mp ready with ⟨watcher, isWatcher⟩
  unfold runFor
  rw [bind_apply, get_apply]
  dsimp only
  rw [isWatcher, isSink]
  dsimp only
  have running : setRunning true service = .ok () { service with around.running := true } := rfl
  have told : note .loopStarted { service with around.running := true } = .ok () service.started := rfl
  rw [bind_of_ok running, bind_of_ok told, bind_apply]
  cases pollRounds sink rounds service.started with
  | ok value after => rfl
  | error failure after => rfl

/-- A run succeeds when its rounds do. -/
theorem runFor_eq_ok_iff {service done : Service} {sink : Sink} {rounds : Nat}
    (ready : service.watcher.isSome = true) (isSink : service.sink = some sink) :
    runFor rounds service = .ok () done ↔
      exists after, pollRounds sink rounds service.started = .ok () after ∧ done = after.finished := by
  rw [runFor_eq ready isSink]
  constructor
  · intro ended
    cases polled : pollRounds sink rounds service.started with
    | ok value after =>
        rw [polled] at ended
        cases ended
        exact ⟨after, rfl, rfl⟩
    | error failure after =>
        rw [polled] at ended
        cases ended
  · rintro ⟨after, polled, rfl⟩
    rw [polled]

/-- A run lets through what its rounds let through. -/
theorem runFor_eq_error_iff {service left : Service} {sink : Sink} {rounds : Nat} {failure : Failure}
    (ready : service.watcher.isSome = true) (isSink : service.sink = some sink) :
    runFor rounds service = .error failure left ↔
      pollRounds sink rounds service.started = .error failure left := by
  rw [runFor_eq ready isSink]
  cases pollRounds sink rounds service.started with
  | ok value after => exact iff_of_false nofun nofun
  | error failure after => exact Iff.rfl

/-- A service without a watcher or without a sink does not run. -/
theorem equipped_or_notReady (service : Service) :
    (service.watcher.isSome = true ∧ exists sink, service.sink = some sink) ∨
      forall rounds, runFor rounds service = .error .serviceNotReady service := by
  cases isWatcher : service.watcher with
  | none =>
      right
      intro rounds
      unfold runFor
      rw [bind_apply, get_apply]
      dsimp only
      rw [isWatcher]
      rfl
  | some watcher =>
      cases isSink : service.sink with
      | some sink => exact .inl ⟨rfl, sink, rfl⟩
      | none =>
          right
          intro rounds
          unfold runFor
          rw [bind_apply, get_apply]
          dsimp only
          rw [isWatcher, isSink]
          rfl

end Service

end ObjectWatch
