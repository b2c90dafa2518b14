import ObjectWatch.Service.Launch
import ObjectWatch.Proofs.Settings.Acceptance
import ObjectWatch.Proofs.Service.ExternalFaults

/-!
# The exit status of the program

The program ends with one of three statuses, and several handlers have a part in which one it is.  Settings
can be rejected before there is a service, a target without a bucket or a key is found when the service
prepares itself, and a failure can go through the preparation or through the run.  A run that comes to
its end in an orderly way may still have given up.

The status is told apart here without regard to these handlers: by what the settings say, by whether a failure
goes through, and by the outcomes of the polls.  How many rounds a run is given has no part in it.  The store
is one that raises nothing but external faults; a request to stop may come with any of its replies.  The
clock is any: a service that has to wait for longer than its clock can measure ends with a failure.
-/

namespace ObjectWatch

open Watcher
open PollOutcome (Exhaust)

/-- The settings are rejected, or they do not name an object. -/
def Sources.Unusable (sources : Sources) : Prop :=
  (exists rejection, sources.settings = .error rejection) ∨
    exists settings, sources.settings = .ok settings ∧ (settings.bucket = "" ∨ settings.key = "")

namespace Service

/-- A failure goes through when the service prepares itself, or when it runs then. -/
def Breaks (start : Service) : Prop :=
  (exists failure left, prepare start = .error failure left) ∨
    exists ready rounds failure left, prepare start = .ok () ready ∧
      runFor rounds ready = .error failure left

/-- The service prepares itself, and when it runs then, the failures in a row reach their limit with some
poll. -/
def GivesUp (start : Service) : Prop :=
  exists ready sink rounds, prepare start = .ok () ready ∧ ready.sink = some sink ∧
    Exhaust start.settings.failureLimit (pollOutcomes sink (ready.started.polls sink rounds))

variable {sink : Sink} {start ready : Service} {rounds : Nat}

/-! ## Every number of rounds -/

theorem polls_ne_nil_of_exhausted {limit : Nat} {polls : List Service}
    (exhausted : Exhaust limit (pollOutcomes sink polls)) : polls ≠ [] := by
  rintro rfl
  exact absurd exhausted.1 (Nat.not_lt_of_le (Nat.le_of_eq exhausted.2.symm))

/-- With the poll that makes the failures reach their limit the run comes to its end. -/
theorem polls_of_exhausted (fresh : start.failures = 0)
    (exhausted : Exhaust start.settings.failureLimit (pollOutcomes sink (start.polls sink rounds)))
    (more : Nat) : start.polls sink (rounds + more) = start.polls sink rounds := by
  rcases List.eq_nil_or_concat (start.polls sink rounds) with idle | ⟨before, last, turns⟩
  · exact absurd idle (polls_ne_nil_of_exhausted exhausted)
  · rw [List.concat_eq_append] at turns
    apply polls_of_final turns
    intro next goesOn
    rcases pollOnce_counts sink last with ⟨outcome, following, ended, same, counts⟩ | ⟨_, stops, _⟩
    · rw [goesOn] at same
      cases same
      rcases counts_of_polls fresh turns ended with ⟨other, again, _, _, reaches⟩
      rw [goesOn] at again
      cases again
      rw [← turns] at reaches
      apply Bool.eq_false_iff.mpr
      exact fun running => (counts.running.mp running).1 (reaches.mpr exhausted)
    · exact absurd goesOn (stops next)

/-- A failure that goes through a run ends it, whatever the number of rounds. -/
theorem polls_of_broken {failure : Failure} {left : Service}
    (broken : pollRounds sink rounds start = .error failure left) (more : Nat) :
    start.polls sink (rounds + more) = start.polls sink rounds := by
  rcases List.eq_nil_or_concat (start.polls sink rounds) with idle | ⟨before, last, turns⟩
  · rw [pollRounds_of_no_polls idle] at broken
    cases broken
  · rw [List.concat_eq_append] at turns
    apply polls_of_final turns
    intro next goesOn
    rw [pollRounds_of_last turns, goesOn] at broken
    cases broken

/-- A run that more rounds would not change is the run to the end. -/
theorem polls_of_settled (reached : start.around.stopper ≠ .absent)
    (settled : forall more, start.polls sink (rounds + more) = start.polls sink rounds) :
    start.polls sink rounds = start.polls sink start.roundsBound := by
  rcases Nat.le_total start.roundsBound rounds with enough | few
  · exact polls_of_enough reached enough
  · rcases Nat.exists_eq_add_of_le few with ⟨more, bound⟩
    rw [bound, settled]

/-- A service that can run, has not failed yet, and can be asked to stop. -/
structure IsNew (sink : Sink) (ready : Service) : Prop where
  watcher : ready.watcher.isSome = true
  isSink : ready.sink = some sink
  failures : ready.failures = 0
  unmarked : ready.failed = false
  reached : ready.around.stopper ≠ .absent

/-- A run leaves the mark of a service that gave up exactly if the failures reach their limit at some time. -/
theorem IsNew.failed_iff (new : ready.IsNew sink) {done : Service} (ended : run ready = .ok () done) :
    done.failed = true ↔ exists rounds,
      Exhaust ready.settings.failureLimit (pollOutcomes sink (ready.started.polls sink rounds)) := by
  have fresh : ready.started.failures = 0 := new.failures
  have unmarked : ready.started.failed = false := new.unmarked
  have mark := (pollRounds_counts fresh sink ready.roundsBound).2
  have same : (stateOf (pollRounds sink ready.roundsBound ready.started)).failed = done.failed := by
    have runs : run ready = runFor ready.roundsBound ready := rfl
    rw [runs] at ended
    rcases (runFor_eq_ok_iff new.watcher new.isSink).mp ended with ⟨after, polled, rfl⟩
    rw [polled]
    rfl
  rw [same, unmarked, or_iff_right Bool.false_ne_true] at mark
  rw [mark]
  constructor
  · intro exhausted
    exact ⟨ready.roundsBound, exhausted⟩
  · rintro ⟨rounds, exhausted⟩
    have settled := @polls_of_settled sink ready.started rounds new.reached
      (polls_of_exhausted fresh exhausted)
    rw [settled] at exhausted
    exact exhausted

/-- A failure goes through some run exactly if it goes through the run to the end. -/
theorem IsNew.run_of_broken (new : ready.IsNew sink) {failure : Failure} {left : Service}
    (broken : runFor rounds ready = .error failure left) : run ready = .error failure left := by
  have runs : run ready = runFor ready.roundsBound ready := rfl
  rw [runs, runFor_eq_error_iff new.watcher new.isSink]
  rw [runFor_eq_error_iff new.watcher new.isSink] at broken
  have settled := @polls_of_settled sink ready.started rounds new.reached (polls_of_broken broken)
  have same := pollRounds_congr settled
  have bound : ready.started.roundsBound = ready.roundsBound := rfl
  rw [broken, bound] at same
  exact same.symm

/-- A service whose preparation and whose run to the end both succeed is not broken by any run. -/
theorem IsNew.not_breaks (new : ready.IsNew sink) (prepared : prepare start = .ok () ready)
    {done : Service} (ended : run ready = .ok () done) : ¬ start.Breaks := by
  rintro (⟨failure, left, refused⟩ | ⟨other, rounds, failure, left, again, broken⟩)
  · cases prepared.symm.trans refused
  · cases prepared.symm.trans again
    cases ended.symm.trans (new.run_of_broken broken)

/-- The mark that the run to the end leaves says whether the service gives up. -/
theorem IsNew.failed_iff_givesUp (new : ready.IsNew sink) (prepared : prepare start = .ok () ready)
    (settings : ready.settings = start.settings) {done : Service} (ended : run ready = .ok () done) :
    done.failed = true ↔ start.GivesUp := by
  rw [new.failed_iff ended, settings]
  constructor
  · rintro ⟨rounds, exhausted⟩
    exact ⟨ready, sink, rounds, prepared, new.isSink, exhausted⟩
  · rintro ⟨other, another, rounds, again, isSink, exhausted⟩
    cases prepared.symm.trans again
    cases new.isSink.symm.trans isSink
    exact ⟨rounds, exhausted⟩

/-! ## A wait that is too long for the clock -/

/-- A round that has to wait and cannot lets the overflow of the clock through. -/
theorem pollOnce_of_stranded {service : Service} {scene : Scene} (isScene : service.scene? = some scene)
    (able : scene.watcher.isPrepared = true) (stranded : scene.isStranded = true) (sink : Sink) :
    pollOnce sink service =
      .error (.foreign Clock.overflow) (service.withScene scene.waitCalled) := by
  rw [pollOnce_of_scene isScene, poll_of_stranded able stranded]
  rfl

/-- A service whose watcher is stranded in some round breaks. -/
theorem IsNew.breaks_of_stranded (new : ready.IsNew sink) (prepared : prepare start = .ok () ready)
    {before : List Service} {service : Service} {scene : Scene}
    (turns : ready.started.polls sink rounds = before ++ [service])
    (isScene : service.scene? = some scene) (able : scene.watcher.isPrepared = true)
    (stranded : scene.isStranded = true) : start.Breaks := by
  have broken := pollRounds_of_last turns
  rw [pollOnce_of_stranded isScene able stranded] at broken
  exact .inr ⟨ready, rounds, _, _, prepared, (runFor_eq_error_iff new.watcher new.isSink).mpr broken⟩

/-! ## Preparing a new service -/

/-- The ends that the preparation of a new service can have. -/
inductive Beginning (settings : Settings) (remote : Remote) :
    EStateM.Result Failure Service Unit -> Prop where
  | nameless (failure : Failure) (left : Service) (missing : settings.bucket = "" ∨ settings.key = "")
      (refused : failure = .bucketMissing ∨ failure = .keyMissing) (uncalled : left.calls = []) :
      Beginning settings remote (.error failure left)
  | clientless (fault : Fault) (left : Service) (named : ¬ (settings.bucket = "" ∨ settings.key = ""))
      (fails : remote.client.1 = some fault) : Beginning settings remote (.error (.foreign fault) left)
  | ready (ready : Service) (named : ¬ (settings.bucket = "" ∨ settings.key = ""))
      (new : ready.IsNew (sinkOf settings)) (same : ready.settings = settings)
      (heads : ready.around.remote.heads = remote.heads)
      (gets : ready.around.remote.gets = remote.gets) : Beginning settings remote (.ok () ready)

theorem beginning {sources : Sources} {settings : Settings}
    (accepted : sources.settings = .ok settings) (remote : Remote) (signal : Nat) (storage : Storage)
    (clock : Clock) :
    Beginning settings remote
      (prepare (ofSettings settings sources.environment remote (.signal signal) storage clock)) := by
  have target := Settings.target_of_accepted accepted
  have isMade : (ofSettings settings sources.environment remote (.signal signal) storage clock).candidate =
      .ok { target := settings.described, environment := sources.environment, buildsClient := true } := by
    have described : (ofSettings settings sources.environment remote (.signal signal)
        storage clock).settings.target = .ok settings.described := target
    unfold candidate
    rw [described]
    rfl
  rw [prepare_of_candidate isMade]
  generalize begun : ({
      watcher :=
        { target := settings.described, environment := sources.environment, buildsClient := true },
      around := ((ofSettings settings sources.environment remote (.signal signal) storage clock).noted
        .preparing).around } : Scene) = scene
  have course := preparation_course scene
  generalize Watcher.prepare scene = result at course
  cases course with
  | bucketMissing missing =>
      subst begun
      exact .nameless _ _ (.inl missing) (.inl rfl) rfl
  | keyMissing found missing =>
      subst begun
      exact .nameless _ _ (.inr missing) (.inr rfl) rfl
  | clientFailed fault named builds fails =>
      subst begun
      exact .clientless fault _ (not_or.mpr named) fails
  | prepared named built =>
      have stopper := scene.equipped_stopper
      rcases scene.equipped_remote with ⟨heads, gets⟩
      subst begun
      refine .ready _ (not_or.mpr named) ⟨rfl, rfl, rfl, rfl, ?_⟩ rfl heads gets
      intro absent
      cases stopper.symm.trans absent

/-! ## How failures end the program -/

/-- An external failure that goes through ends the program with status 1. -/
theorem exit_of_external {failure : Failure} (external : failure.IsExternal) (service : Service) :
    (service.outcomeOf failure).exit = .code 1 := by
  rcases external with ⟨fault, outside, report⟩
  unfold outcomeOf
  rw [report]
  cases fault with
  | keyboard message => cases outside.isOrdinary
  | exit message => cases outside.isOrdinary
  | _ => rfl

/-- A target that names no object ends the program with status 2. -/
theorem exit_of_nameless {failure : Failure} (refused : failure = .bucketMissing ∨ failure = .keyMissing)
    (service : Service) :
    (service.outcomeOf failure).exit = .code 2 ∧
      (service.outcomeOf failure).calls = service.calls := by
  rcases refused with rfl | rfl
  · exact ⟨rfl, noted_calls _ service⟩
  · exact ⟨rfl, noted_calls _ service⟩

variable {sources : Sources} {settings : Settings} {remote : Remote} {signal : Nat} {storage : Storage}
  {clock : Clock}

theorem launch_of_accepted (accepted : sources.settings = .ok settings) :
    launch sources remote signal storage clock =
      match prepare (ofSettings settings sources.environment remote (.signal signal) storage clock) with
      | .error failure left => left.outcomeOf failure
      | .ok _ ready =>
          match run ready with
          | .ok _ done => done.outcome done.status
          | .error failure left => left.outcomeOf failure := by
  unfold launch
  rw [accepted]
  dsimp only
  unfold perform
  rw [bind_apply]
  cases prepare (ofSettings settings sources.environment remote (.signal signal) storage clock) with
  | error failure left => rfl
  | ok value ready =>
      dsimp only
      cases run ready with
      | error failure left => rfl
      | ok value done => rfl

/-- Settings that do not name an object are refused before anything is called. -/
theorem launch_of_nameless (accepted : sources.settings = .ok settings)
    (missing : settings.bucket = "" ∨ settings.key = "") :
    (launch sources remote signal storage clock).exit = .code 2 ∧
      (launch sources remote signal storage clock).calls = [] := by
  have course := beginning accepted remote signal storage clock
  rw [launch_of_accepted accepted]
  generalize prepare (ofSettings settings sources.environment remote (.signal signal) storage clock) = result
    at course
  cases course with
  | nameless failure left missing refused uncalled =>
      rcases exit_of_nameless refused left with ⟨exit, calls⟩
      exact ⟨exit, calls.trans uncalled⟩
  | clientless fault left named fails => exact absurd missing named
  | ready ready named new same heads gets => exact absurd missing named

/-- With settings that name an object the program succeeds or fails, and it fails exactly if the service gives
up or a failure goes through. -/
theorem launch_of_named (accepted : sources.settings = .ok settings)
    (named : ¬ (settings.bucket = "" ∨ settings.key = "")) (external : remote.RaisesExternal)
    {start : Service}
    (isStart : ofSettings settings sources.environment remote (.signal signal) storage clock = start) :
    ((start.GivesUp ∨ start.Breaks) ∧ (launch sources remote signal storage clock).exit = .code 1) ∨
      (¬ (start.GivesUp ∨ start.Breaks) ∧ (launch sources remote signal storage clock).exit = .code 0) := by
  have course := beginning accepted remote signal storage clock
  have sameSettings : start.settings = settings := by
    subst isStart
    rfl
  rw [launch_of_accepted accepted]
  rw [isStart] at course ⊢
  cases prepared : prepare start with
  | error failure left =>
      rw [prepared] at course
      refine .inl ⟨.inr (.inl ⟨failure, left, prepared⟩), ?_⟩
      cases course with
      | nameless failure left missing refused uncalled => exact absurd missing named
      | clientless fault left named fails =>
          exact exit_of_external (external.client fails).failure left
  | ok value ready =>
      rw [prepared] at course
      cases course with
      | ready ready named new same heads gets =>
          dsimp only
          have replies : ready.around.remote.RepliesExternally := by
            refine ⟨?_, ?_, ?_⟩
            · rw [heads]
              exact external.probes
            · rw [gets]
              exact external.retrievals
            · unfold Remote.Serves
              rw [gets]
              exact external.bodies
          cases ended : run ready with
          | error failure left =>
              refine .inl ⟨.inr (.inr ⟨ready, _, failure, left, prepared, ended⟩), ?_⟩
              exact exit_of_external (runFor_external replies ended) left
          | ok value done =>
              have gaveUp := new.failed_iff_givesUp prepared (same.trans sameSettings.symm) ended
              rw [or_iff_left (new.not_breaks prepared ended), ← gaveUp]
              cases failed : done.failed with
              | true =>
                  refine .inl ⟨rfl, ?_⟩
                  show ExitStatus.ofSuccess (!done.failed) = .code 1
                  rw [failed]
                  rfl
              | false =>
                  refine .inr ⟨Bool.false_ne_true, ?_⟩
                  show ExitStatus.ofSuccess (!done.failed) = .code 0
                  rw [failed]
                  rfl

/-- The program ends with status 1 if its watcher has to wait in some round and the interval is too long for
the clock. -/
theorem launch_of_stranded (accepted : sources.settings = .ok settings)
    (named : ¬ (settings.bucket = "" ∨ settings.key = "")) (external : remote.RaisesExternal)
    (prepared :
      prepare (ofSettings settings sources.environment remote (.signal signal) storage clock) = .ok () ready)
    {before : List Service} {service : Service} {scene : Scene}
    (turns : ready.started.polls (sinkOf settings) rounds = before ++ [service])
    (isScene : service.scene? = some scene) (able : scene.watcher.isPrepared = true)
    (stranded : scene.isStranded = true) : (launch sources remote signal storage clock).exit = .code 1 := by
  have course := beginning accepted remote signal storage clock
  rw [prepared] at course
  cases course with
  | ready ready _ new same heads gets =>
      have breaks := new.breaks_of_stranded prepared turns isScene able stranded
      rcases @launch_of_named sources settings remote signal storage clock accepted named external _ rfl with
        ⟨_, exit⟩ | ⟨whole, _⟩
      · exact exit
      · exact absurd (.inr breaks) whole

-- An object that never changes lets the program end well, unless the clock refuses to wait.
example :
    (launch { environment := [("s3_bucket", "b"), ("s3_key", "k")] } { heads := [{ outcome := .ok {} }] }
        15 {}).exit = .code 0 ∧
      (launch { environment := [("s3_bucket", "b"), ("s3_key", "k")] } { heads := [{ outcome := .ok {} }] }
        15 {} { refuses := fun _ => true }).exit = .code 1 :=
  ⟨by decide +kernel, by decide +kernel⟩

/-- The program ends with status 2 exactly if its settings are rejected or do not name an object, and then no
client is built and nothing is asked of the store.  In every other case it ends with status 1 exactly if the
failures in a row reach their limit in the run, or a failure goes through the preparation or the run, and with
status 0 if neither happens.  This holds with a store that raises nothing but external faults, wherever the
settings come from, with whatever reply a request to stop arrives, and with every clock: a wait that is too
long for the clock is a failure that goes through the run. -/
theorem exit_status_by_cause (sources : Sources) (signal : Nat) (storage : Storage) (clock : Clock)
    (external : remote.RaisesExternal) :
    ((launch sources remote signal storage clock).exit = .code 2 ↔ sources.Unusable) ∧
      (sources.Unusable -> (launch sources remote signal storage clock).calls = []) ∧
      forall settings, sources.settings = .ok settings -> ¬ sources.Unusable ->
        forall start, ofSettings settings sources.environment remote (.signal signal) storage clock = start ->
          ((launch sources remote signal storage clock).exit = .code 1 ↔ start.GivesUp ∨ start.Breaks) ∧
          (¬ (start.GivesUp ∨ start.Breaks) ->
            (launch sources remote signal storage clock).exit = .code 0) := by
  cases described : sources.settings with
  | error rejection =>
      have unusable : sources.Unusable := .inl ⟨rejection, described⟩
      have refused : launch sources remote signal storage clock =
          { exit := .code 2, early := [.settingsRejected rejection], storage } := by
        unfold launch
        rw [described]
      rw [refused]
      exact ⟨iff_of_true rfl unusable, fun _ => rfl, nofun⟩
  | ok settings =>
      by_cases missing : settings.bucket = "" ∨ settings.key = ""
      · have unusable : sources.Unusable := .inr ⟨settings, described, missing⟩
        rcases @launch_of_nameless sources settings remote signal storage clock described missing with
          ⟨exit, calls⟩
        exact ⟨iff_of_true exit unusable, fun _ => calls, fun _ _ usable => absurd unusable usable⟩
      · have usable : ¬ sources.Unusable := by
          rintro (⟨rejection, rejected⟩ | ⟨other, same, nameless⟩)
          · cases described.symm.trans rejected
          · cases described.symm.trans same
            exact missing nameless
        have ends := fun start => @launch_of_named sources settings remote signal storage clock described
          missing external start
        refine ⟨iff_of_false ?_ usable, fun unusable => absurd unusable usable, ?_⟩
        · intro exit
          rcases ends _ rfl with ⟨_, other⟩ | ⟨_, other⟩
          · cases exit.symm.trans other
          · cases exit.symm.trans other
        · intro same isSame _ start isStart
          cases isSame
          rcases ends start isStart with ⟨fails, exit⟩ | ⟨succeeds, exit⟩
          · exact ⟨iff_of_true exit fails, fun succeeds => absurd fails succeeds⟩
          · refine ⟨iff_of_false ?_ succeeds, fun _ => exit⟩
            intro other
            cases exit.symm.trans other

/-- Variables, read by their exact names, that name an object and allow for a single failure. -/
def impatientSources : Sources where
  environment := [("s3_bucket", "b"), ("s3_key", "k"), ("max_consecutive_failures", "1")]
  reading := { isCaseSensitive := true }

/-- A store that answers once and then times out, while a request to stop arrives. -/
def waveringRemote : Remote where
  heads :=
    [{ outcome := .ok {} },
      { interruption := { stops := true }, outcome := .error (.system .timeout "slow") }]

/-- The request to stop comes with the failure that is one too many, and the program ends with status 1. -/
theorem exit_status_by_cause_at_limit :
    waveringRemote.RaisesExternal ∧ ¬ impatientSources.Unusable ∧
      (launch impatientSources waveringRemote 15 {}).exit = .code 1 ∧
      exists settings start, impatientSources.settings = .ok settings ∧
        ofSettings settings impatientSources.environment waveringRemote (.signal 15) {} = start ∧
        (start.GivesUp ∨ start.Breaks) := by
  have external : waveringRemote.RaisesExternal := by
    refine ⟨⟨?_, ?_, ?_⟩, ?_⟩
    · intro reply fault member fails
      rcases List.mem_cons.mp member with rfl | later
      · cases fails
      · cases List.mem_singleton.mp later
        cases fails
        exact ⟨rfl, rfl⟩
    · intro reply fault member
      exact absurd member List.not_mem_nil
    · intro body encoding member
      exact absurd member List.not_mem_nil
    · intro fault member
      exact absurd member List.not_mem_nil
  have law := exit_status_by_cause impatientSources 15 {} {} external
  have exit : (launch impatientSources waveringRemote 15 {}).exit = .code 1 := by decide +kernel
  have usable : ¬ impatientSources.Unusable := by
    intro unusable
    cases exit.symm.trans (law.1.mpr unusable)
  cases accepted : impatientSources.settings with
  | error rejection => exact absurd (.inl ⟨rejection, accepted⟩) usable
  | ok settings =>
      exact ⟨external, usable, exit, settings, _, rfl, rfl,
        (law.2.2 settings accepted usable _ rfl).1.mp exit⟩

end Service
end ObjectWatch
