import ObjectWatch.Proofs.Watcher.Preparation
import ObjectWatch.Proofs.Watcher.Requests
import ObjectWatch.Proofs.Service.Round

/-!
# Stopping a service before it runs

A request to stop leaves two marks: the service is told not to go on, and the pause of its watcher is
cancelled.  A run begins by telling the service to go on, so of a request that comes before the run
only the second mark is left, and a service that has no watcher yet has nowhere to put it.  What
becomes of such a request therefore depends on whether the watcher was there when it came: it was
given from the start, or the service had begun to prepare.

`Survives` is what no command undoes, `Heeded` is a request that left its mark, and `Fresh` is a
service on which none did.
-/

namespace ObjectWatch

open Watcher

/-- What is asked of a service before it runs. -/
inductive Command where
  | prepare
  | stop
deriving DecidableEq, Repr

namespace Service

/-- The service after a command.  Whatever the command ends with, it leaves a service. -/
def obeyed (command : Command) (service : Service) : Service :=
  match command with
  | .prepare => stateOf (prepare service)
  | .stop => stateOf (stop service)

/-- The service after commands, the first of them first. -/
def obey (commands : List Command) (service : Service) : Service :=
  commands.foldl (fun service command => service.obeyed command) service

theorem obey_cons (command : Command) (commands : List Command) (service : Service) :
    service.obey (command :: commands) = (service.obeyed command).obey commands := rfl

theorem obey_append (commands later : List Command) (service : Service) :
    service.obey (commands ++ later) = (service.obey commands).obey later :=
  List.foldl_append

/-- The calls made so far. -/
def calls (service : Service) : List Call := service.around.journal.calls

/-- How many requests for metadata were sent. -/
def heads (service : Service) : Nat := service.calls.countP Call.isHead

/-- How many requests for content were sent. -/
def gets (service : Service) : Nat := service.calls.countP Call.isGet

/-- A request to stop has left its mark on the watcher. -/
def Heeded (service : Service) : Prop :=
  exists watcher, service.watcher = some watcher ∧ watcher.pause.isCancelled = true

/-- The watcher, if there is one, was never cancelled and has never polled. -/
def Fresh (service : Service) : Prop :=
  forall watcher, service.watcher = some watcher ->
    watcher.pause.isCancelled = false ∧ watcher.progress.hasPolled = false

/-- The service can run. -/
structure IsReady (service : Service) : Prop where
  watcher : exists watcher, service.watcher = some watcher ∧ watcher.isPrepared = true
  sink : service.sink.isSome = true

/-- What no command undoes. -/
structure Survives (before after : Service) : Prop where
  settings : after.settings = before.settings
  watcher : before.watcher.isSome = true -> after.watcher.isSome = true
  heeded : before.Heeded -> after.Heeded
  ready : before.IsReady -> after.IsReady

namespace Survives

theorem refl (service : Service) : Survives service service := ⟨rfl, id, id, id⟩

theorem trans {first second third : Service} (left : Survives first second)
    (right : Survives second third) : Survives first third :=
  ⟨right.settings.trans left.settings, fun is => right.watcher (left.watcher is),
    fun is => right.heeded (left.heeded is), fun is => right.ready (left.ready is)⟩

end Survives

/-! ## Preparing -/

/-- The watcher that a service prepares: the one it has, or one made from the settings. -/
def candidate (service : Service) : Except Rejection Watcher :=
  match service.watcher with
  | some watcher => .ok watcher
  | none => service.settings.target.map fun target =>
      { target, environment := service.environment, buildsClient := true }

theorem ensureWatcher_apply (service : Service) :
    ensureWatcher service =
      match service.candidate with
      | .ok watcher => .ok watcher { service with watcher := some watcher }
      | .error rejection => .error (.rejected rejection) service := by
  unfold ensureWatcher candidate
  rw [bind_apply, get_apply]
  dsimp only
  cases isWatcher : service.watcher with
  | some watcher =>
      show EStateM.Result.ok watcher service = .ok watcher { service with watcher := some watcher }
      rw [← isWatcher]
  | none =>
      cases service.settings.target with
      | ok target => rfl
      | error rejection => rfl

/-- What preparing does: without a watcher it changes nothing but the journal, and else the watcher goes
through its preparation, and there is a sink if that succeeds.  A preparation that fails takes nothing from
the watcher that it needs to poll. -/
inductive Preparation (service : Service) : EStateM.Result Failure Service Unit -> Prop where
  | refused (rejection : Rejection) (after : Service) (unmade : service.candidate = .error rejection)
      (watcher : after.watcher = service.watcher) (sink : after.sink = service.sink)
      (settings : after.settings = service.settings) :
      Preparation service (.error (.rejected rejection) after)
  | failed (made left : Watcher) (failure : Failure) (after : Service)
      (isMade : service.candidate = .ok made) (watcher : after.watcher = some left)
      (isPrepared : made.isPrepared = true -> left.isPrepared = true)
      (pause : left.pause = made.pause) (progress : left.progress = made.progress)
      (sink : after.sink = service.sink) (settings : after.settings = service.settings) :
      Preparation service (.error failure after)
  | prepared (made left : Watcher) (after : Service) (isMade : service.candidate = .ok made)
      (watcher : after.watcher = some left) (isPrepared : left.isPrepared = true)
      (pause : left.pause = made.pause) (progress : left.progress = made.progress)
      (sink : after.sink.isSome = true) (settings : after.settings = service.settings) :
      Preparation service (.ok () after)

/-- The service after its watcher was prepared. -/
def fitted (scene : Scene) (service : Service) : Service :=
  { service.withScene scene with
    sink := service.sink.orElse fun _ => some (sinkOf service.settings) }.noted
    (.prepared service.settings.bucket service.settings.key service.settings.outputPath
      service.settings.failureLimit)

/-- A service prepares the watcher that it has or makes. -/
theorem prepare_of_candidate {service : Service} {watcher : Watcher}
    (isMade : service.candidate = .ok watcher) :
    prepare service =
      match Watcher.prepare { watcher, around := (service.noted .preparing).around } with
      | .ok _ scene => .ok () ((service.noted .preparing).fitted scene)
      | .error failure scene => .error failure ((service.noted .preparing).withScene scene) := by
  have told : note .preparing service = .ok () (service.noted .preparing) := rfl
  have made := ensureWatcher_apply (service.noted .preparing)
  have same : (service.noted .preparing).candidate = .ok watcher := isMade
  rw [same] at made
  unfold prepare
  rw [bind_of_ok told, bind_of_ok made, bind_apply, attempt_apply]
  dsimp only
  cases Watcher.prepare { watcher, around := (service.noted .preparing).around } with
  | ok value scene => rfl
  | error failure scene => rfl

/-- A service that has no watcher and cannot make one does not get further. -/
theorem prepare_of_rejected {service : Service} {rejection : Rejection}
    (unmade : service.candidate = .error rejection) :
    prepare service = .error (.rejected rejection) (service.noted .preparing) := by
  have told : note .preparing service = .ok () (service.noted .preparing) := rfl
  have made := ensureWatcher_apply (service.noted .preparing)
  have same : (service.noted .preparing).candidate = .error rejection := unmade
  rw [same] at made
  unfold prepare
  rw [bind_of_ok told, bind_of_error made]

theorem preparation (service : Service) : Preparation service (prepare service) := by
  cases isMade : service.candidate with
  | error rejection =>
      rw [prepare_of_rejected isMade]
      exact .refused rejection _ isMade rfl rfl rfl
  | ok watcher =>
      rw [prepare_of_candidate isMade]
      have course := preparation_course { watcher, around := (service.noted .preparing).around }
      cases ended : Watcher.prepare { watcher, around := (service.noted .preparing).around } with
      | error failure scene =>
          rw [ended] at course
          rcases course.keeps with ⟨pause, progress, _⟩
          exact .failed watcher scene.watcher failure _ isMade rfl course.isPrepared pause progress rfl
            rfl
      | ok value scene =>
          rw [ended] at course
          rcases course.keeps with ⟨pause, progress, _⟩
          refine .prepared watcher scene.watcher _ isMade rfl course.isPrepared_of_ok pause progress
            ?_ rfl
          show (service.sink.orElse fun _ => some (sinkOf service.settings)).isSome = true
          cases service.sink with
          | none => rfl
          | some sink => rfl

/-- The watcher that a service has is the one that it prepares. -/
theorem candidate_of_some {service : Service} {watcher : Watcher}
    (isWatcher : service.watcher = some watcher) : service.candidate = .ok watcher := by
  unfold candidate
  rw [isWatcher]

/-- A service that is fresh prepares a watcher that is. -/
theorem Fresh.candidate {service : Service} (fresh : service.Fresh) {made : Watcher}
    (isMade : service.candidate = .ok made) :
    made.pause.isCancelled = false ∧ made.progress.hasPolled = false := by
  cases isWatcher : service.watcher with
  | some watcher =>
      rw [candidate_of_some isWatcher] at isMade
      cases isMade
      exact fresh made isWatcher
  | none =>
      unfold Service.candidate at isMade
      rw [isWatcher] at isMade
      cases made? : service.settings.target with
      | error rejection =>
          rw [made?] at isMade
          cases isMade
      | ok target =>
          rw [made?] at isMade
          cases isMade
          exact ⟨rfl, rfl⟩

namespace Preparation

variable {service : Service} {result : EStateM.Result Failure Service Unit}

theorem survives (preparation : Preparation service result) : Survives service (stateOf result) := by
  cases preparation with
  | refused rejection after unmade watcher sink settings =>
      refine ⟨settings, fun is => ?_, fun heeded => ?_, fun ready => ?_⟩
      · rw [stateOf, watcher]
        exact is
      · rcases heeded with ⟨cancelled, isWatcher, is⟩
        exact ⟨cancelled, watcher.trans isWatcher, is⟩
      · rcases ready.watcher with ⟨prepared, isWatcher, is⟩
        exact ⟨⟨prepared, watcher.trans isWatcher, is⟩, (congrArg Option.isSome sink).trans ready.sink⟩
  | failed made left failure after isMade watcher isPrepared pause progress sink settings =>
      refine ⟨settings, fun _ => congrArg Option.isSome watcher, fun heeded => ?_, fun ready => ?_⟩
      · rcases heeded with ⟨cancelled, isWatcher, is⟩
        cases isMade.symm.trans (candidate_of_some isWatcher)
        exact ⟨left, watcher, (congrArg Pause.isCancelled pause).trans is⟩
      · rcases ready.watcher with ⟨prepared, isWatcher, is⟩
        cases isMade.symm.trans (candidate_of_some isWatcher)
        exact ⟨⟨left, watcher, isPrepared is⟩, (congrArg Option.isSome sink).trans ready.sink⟩
  | prepared made left after isMade watcher isPrepared pause progress sink settings =>
      refine ⟨settings, fun _ => congrArg Option.isSome watcher, fun heeded => ?_,
        fun _ => ⟨⟨left, watcher, isPrepared⟩, sink⟩⟩
      rcases heeded with ⟨cancelled, isWatcher, is⟩
      cases isMade.symm.trans (candidate_of_some isWatcher)
      exact ⟨left, watcher, (congrArg Pause.isCancelled pause).trans is⟩

/-- Preparing makes no watcher old. -/
theorem fresh (preparation : Preparation service result) (fresh : service.Fresh) :
    (stateOf result).Fresh := by
  intro current isCurrent
  cases preparation with
  | refused rejection after unmade watcher sink settings =>
      exact fresh current (watcher.symm.trans isCurrent)
  | failed made left failure after isMade watcher isPrepared pause progress sink settings =>
      cases watcher.symm.trans isCurrent
      rw [pause, progress]
      exact fresh.candidate isMade
  | prepared made left after isMade watcher isPrepared pause progress sink settings =>
      cases watcher.symm.trans isCurrent
      rw [pause, progress]
      exact fresh.candidate isMade

end Preparation

/-- A service that was prepared can run. -/
theorem isReady_of_prepare {service after : Service} (succeeds : prepare service = .ok () after) :
    after.IsReady := by
  have course := preparation service
  rw [succeeds] at course
  cases course with
  | prepared made left after isMade watcher isPrepared pause progress sink settings =>
      exact ⟨⟨left, watcher, isPrepared⟩, sink⟩

/-! ## Stopping -/

theorem stop_apply (service : Service) :
    stop service = .ok ()
      (match service.watcher with
        | some watcher => service.withScene (Scene.stop { watcher, around := service.around })
        | none =>
            { service.noted .stopping with
              around := { (service.noted .stopping).around with running := false } }) := by
  unfold stop
  rw [bind_apply, get_apply]
  dsimp only
  cases service.watcher with
  | some watcher => rfl
  | none => rfl

/-- A request to stop leaves its mark on the watcher that is there. -/
theorem heeded_of_stop {service : Service} (is : service.watcher.isSome = true) :
    (service.obeyed .stop).Heeded := by
  rcases Option.isSome_iff_exists.mp is with ⟨watcher, isWatcher⟩
  unfold obeyed
  dsimp only
  rw [stop_apply, isWatcher]
  exact ⟨_, rfl, rfl⟩

/-- A request to stop makes no watcher. -/
theorem watcher_of_stop {service : Service} (absent : service.watcher = none) :
    (service.obeyed .stop).watcher = none := by
  unfold obeyed
  dsimp only
  rw [stop_apply, absent]
  exact absent

theorem survives_stop (service : Service) : Survives service (service.obeyed .stop) := by
  cases isWatcher : service.watcher with
  | none =>
      have left := watcher_of_stop isWatcher
      refine ⟨?_, fun is => ?_, fun heeded => ?_, fun ready => ?_⟩
      · unfold obeyed
        dsimp only
        rw [stop_apply, isWatcher]
        rfl
      · rw [isWatcher] at is
        cases is
      · rcases heeded with ⟨cancelled, present, _⟩
        cases isWatcher.symm.trans present
      · rcases ready.watcher with ⟨prepared, present, _⟩
        cases isWatcher.symm.trans present
  | some watcher =>
      have heeded := heeded_of_stop (congrArg Option.isSome isWatcher)
      have left : service.obeyed .stop =
          service.withScene (Scene.stop { watcher, around := service.around }) := by
        unfold obeyed
        dsimp only
        rw [stop_apply, isWatcher]
        rfl
      rw [left] at heeded ⊢
      refine ⟨rfl, fun _ => rfl, fun _ => heeded, fun ready => ?_⟩
      rcases ready.watcher with ⟨prepared, present, is⟩
      cases isWatcher.symm.trans present
      exact ⟨⟨_, rfl, is⟩, ready.sink⟩

/-! ## Commands -/

theorem survives_obeyed (command : Command) (service : Service) :
    Survives service (service.obeyed command) := by
  cases command with
  | prepare => exact (preparation service).survives
  | stop => exact survives_stop service

theorem survives_obey (commands : List Command) (service : Service) :
    Survives service (service.obey commands) := by
  induction commands generalizing service with
  | nil => exact .refl service
  | cons command commands inductionHypothesis =>
      exact (survives_obeyed command service).trans (inductionHypothesis (service.obeyed command))

/-- Preparing again and again makes no watcher old. -/
theorem Fresh.obey {service : Service} (fresh : service.Fresh) {commands : List Command}
    (unstopped : Command.stop ∉ commands) : (service.obey commands).Fresh := by
  induction commands generalizing service with
  | nil => exact fresh
  | cons command commands inductionHypothesis =>
      have later : Command.stop ∉ commands := fun later =>
        unstopped (List.mem_cons_of_mem _ later)
      cases command with
      | prepare => exact inductionHypothesis ((preparation service).fresh fresh) later
      | stop => exact absurd List.mem_cons_self unstopped

/-- Requests to stop that come before the service has begun to prepare leave no mark. -/
theorem fresh_of_early_stops {service : Service} (absent : service.watcher = none)
    {commands : List Command}
    (early : forall before after, commands = before ++ .stop :: after -> Command.prepare ∉ before) :
    (service.obey commands).Fresh := by
  induction commands generalizing service with
  | nil =>
      intro watcher isWatcher
      cases absent.symm.trans isWatcher
  | cons command commands inductionHypothesis =>
      cases command with
      | stop =>
          refine inductionHypothesis (watcher_of_stop absent) ?_
          intro before after split begun
          exact early (.stop :: before) after (congrArg _ split) (List.mem_cons_of_mem _ begun)
      | prepare =>
          have unstopped : Command.stop ∉ commands := by
            intro stopped
            rcases List.append_of_mem stopped with ⟨before, after, split⟩
            exact early (.prepare :: before) after (congrArg _ split) List.mem_cons_self
          have fresh : service.Fresh := by
            intro watcher isWatcher
            cases absent.symm.trans isWatcher
          exact Fresh.obey ((preparation service).fresh fresh) unstopped

/-- A service whose settings describe no target never comes to have a watcher. -/
theorem obey_watcher_of_rejected {service : Service} {rejection : Rejection}
    (absent : service.watcher = none) (rejected : service.settings.target = .error rejection)
    (commands : List Command) : (service.obey commands).watcher = none := by
  induction commands generalizing service with
  | nil => exact absent
  | cons command commands inductionHypothesis =>
      have kept := (survives_obeyed command service).settings
      refine inductionHypothesis ?_ ((congrArg Settings.target kept).trans rejected)
      cases command with
      | stop => exact watcher_of_stop absent
      | prepare =>
          have unmade : service.candidate = .error rejection := by
            unfold candidate
            rw [absent, rejected]
            rfl
          show (stateOf (prepare service)).watcher = none
          have course := preparation service
          generalize prepare service = result at course
          cases course with
          | refused rejection after unmade watcher sink settings => exact watcher.trans absent
          | failed made left failure after isMade watcher isPrepared pause progress sink settings =>
              cases unmade.symm.trans isMade
          | prepared made left after isMade watcher isPrepared pause progress sink settings =>
              cases unmade.symm.trans isMade

/-- Once a service has begun to prepare it has a watcher, if its settings describe a target. -/
theorem obey_watcher_of_begun {service : Service} {target : Target}
    (described : service.settings.target = .ok target) {commands : List Command}
    (begun : Command.prepare ∈ commands) : (service.obey commands).watcher.isSome = true := by
  rcases List.append_of_mem begun with ⟨before, after, rfl⟩
  rw [obey_append, obey_cons]
  apply (survives_obey after _).watcher
  have kept := (survives_obey before service).settings
  have made : exists watcher, (service.obey before).candidate = .ok watcher := by
    unfold candidate
    rw [kept, described]
    cases (service.obey before).watcher with
    | some watcher => exact ⟨watcher, rfl⟩
    | none => exact ⟨_, rfl⟩
  rcases made with ⟨watcher, isMade⟩
  show (stateOf (prepare (service.obey before))).watcher.isSome = true
  have course := preparation (service.obey before)
  generalize prepare (service.obey before) = result at course
  cases course with
  | refused rejection after unmade watcher sink settings => cases isMade.symm.trans unmade
  | failed made left failure after isMade watcher isPrepared pause progress sink settings =>
      exact congrArg Option.isSome watcher
  | prepared made left after isMade watcher isPrepared pause progress sink settings =>
      exact congrArg Option.isSome watcher

/-! ## The run -/

@[simp] theorem noted_calls (notice : Notice) (service : Service) :
    (service.noted notice).calls = service.calls :=
  Journal.calls_append_notice _ notice

@[simp] theorem troubled_calls (notice : Report -> Nat -> Notice) (report : Report)
    (service : Service) : (service.troubled notice report).calls = service.calls := by
  have counted : (service.failedAgain notice report).calls = service.calls := noted_calls _ _
  unfold troubled
  dsimp only
  split
  · exact (noted_calls _ _).trans counted
  · exact counted

@[simp] theorem started_calls (service : Service) : service.started.calls = service.calls :=
  noted_calls _ { service with around := { service.around with running := true } }

@[simp] theorem finished_calls (service : Service) : service.finished.calls = service.calls :=
  noted_calls _ { service with around := { service.around with running := false } }

end Service

/-- All calls of a round are those of its poll. -/
theorem RoundCourse.calls_eq {sink : Sink} {service : Service} {result : RoundEnd}
    (course : RoundCourse sink service result) {scene : Scene}
    (isScene : service.scene? = some scene) :
    (stateOf result).calls = (stateOf (Watcher.poll scene)).calls := by
  cases course with
  | notReady absent => cases absent.symm.trans isScene
  | unchanged polledScene after same polled =>
      cases same.symm.trans isScene
      rw [polled]
      rfl
  | failed polledScene after failure same polled counted =>
      cases same.symm.trans isScene
      rw [polled]
      exact Service.troubled_calls _ _ _
  | cancelled polledScene after failure same polled cancels =>
      cases same.symm.trans isScene
      rw [polled]
      exact Service.noted_calls _ _
  | escaped polledScene after failure same polled uncounted uncancelled =>
      cases same.symm.trans isScene
      rw [polled]
      rfl
  | written polledScene after content size done same polled delivers =>
      cases same.symm.trans isScene
      rw [polled]
      exact Service.noted_calls _ _
  | unwritten polledScene after content fault done same polled fails spoils =>
      cases same.symm.trans isScene
      rw [polled]
      exact Service.troubled_calls _ _ _
  | broken polledScene after content fault done same polled fails unrelated =>
      cases same.symm.trans isScene
      rw [polled]
      rfl

namespace Service

/-- No round takes a request back. -/
theorem heads_le_pollOnce (sink : Sink) (service : Service) :
    service.heads ≤ (stateOf (pollOnce sink service)).heads := by
  cases isScene : service.scene? with
  | none =>
      rw [pollOnce_of_no_scene isScene]
      exact Nat.le_refl _
  | some scene =>
      unfold heads
      rw [(round_course sink service).calls_eq isScene]
      rcases Option.map_eq_some_iff.mp isScene with ⟨watcher, _, rfl⟩
      have requests := (poll_course { watcher, around := service.around }).requests
      have sent : { watcher, around := service.around : Scene }.heads ≤
          (stateOf (poll { watcher, around := service.around })).heads := by omega
      exact sent

/-- What the first round has sent stays sent, if no later round takes a request back. -/
theorem heads_pollOnce_le {sink : Sink} {rounds : Nat} {service : Service}
    (running : service.around.running = true)
    (later : forall next, next.heads ≤ (stateOf (pollRounds sink rounds next)).heads) :
    (stateOf (pollOnce sink service)).heads ≤
      (stateOf (pollRounds sink (rounds + 1) service)).heads := by
  rw [pollRounds_succ, if_pos running]
  cases pollOnce sink service with
  | error failure next => exact Nat.le_refl _
  | ok goesOn next =>
      cases goesOn with
      | true => exact later next
      | false => exact Nat.le_refl _

theorem heads_le_pollRounds (sink : Sink) (rounds : Nat) (service : Service) :
    service.heads ≤ (stateOf (pollRounds sink rounds service)).heads := by
  induction rounds generalizing service with
  | zero => exact Nat.le_refl _
  | succ rounds inductionHypothesis =>
      by_cases running : service.around.running = true
      · apply Nat.le_trans (heads_le_pollOnce sink service)
        exact heads_pollOnce_le running inductionHypothesis
      · rw [pollRounds_succ, if_neg running]
        exact Nat.le_refl _

/-- A run of a service that can run. -/
theorem run_eq {service : Service} {sink : Sink} (ready : service.IsReady)
    (isSink : service.sink = some sink) :
    run service =
      match pollRounds sink service.roundsBound service.started with
      | .ok () after => .ok () after.finished
      | .error failure after => .error failure after := by
  rcases ready.watcher with ⟨watcher, isWatcher, _⟩
  exact runFor_eq (congrArg Option.isSome isWatcher) isSink service.roundsBound

/-- The scene of the first poll of a run. -/
theorem started_scene? {service : Service} {watcher : Watcher}
    (isWatcher : service.watcher = some watcher) :
    service.started.scene? = some { watcher, around := service.started.around } := by
  have started : service.started.watcher = some watcher := isWatcher
  unfold scene?
  rw [started]
  rfl

/-- Nothing was asked of the store between two services, nothing was learnt, and nothing was counted by the
watcher, and the request to stop is still heeded. -/
def Rests (before after : Service) : Prop :=
  exists scene later, before.scene? = some scene ∧ after.scene? = some later ∧ Withheld scene later

/-- A service rests if its watcher does, whatever was noted before and after. -/
theorem rests_of_withheld {service done : Service} {watcher : Watcher} {scene later : Scene}
    (isWatcher : service.watcher = some watcher) (same : scene.watcher = watcher)
    (calls : scene.calls = service.calls) (withheld : Withheld scene later)
    (left : done.watcher = some later.watcher) (leftCalls : done.calls = later.calls) :
    service.Rests done := by
  subst same
  refine ⟨{ watcher := scene.watcher, around := service.around },
    { watcher := later.watcher, around := done.around }, ?_, ?_, ?_⟩
  · rw [scene?, isWatcher]
    rfl
  · rw [scene?, left]
    rfl
  · refine ⟨?_, ?_, withheld.token, withheld.decodeState, withheld.tally, withheld.isPrepared,
      withheld.isCancelled⟩
    · have heads := withheld.heads
      unfold Scene.heads at heads
      rw [calls, ← leftCalls] at heads
      exact heads
    · have gets := withheld.gets
      unfold Scene.gets at gets
      rw [calls, ← leftCalls] at gets
      exact gets

/-- A service on which a request to stop has left its mark runs for one poll at most, which asks for
nothing. -/
theorem runFor_of_heeded {service : Service} (ready : service.IsReady) (heeded : service.Heeded)
    (rounds : Nat) :
    exists done, runFor rounds service = .ok () done ∧ service.Rests done ∧
      done.sink = service.sink := by
  rcases Option.isSome_iff_exists.mp ready.sink with ⟨sink, isSink⟩
  rcases ready.watcher with ⟨watcher, isWatcher, prepared⟩
  rcases heeded with ⟨same, present, cancelled⟩
  cases isWatcher.symm.trans present
  have runs := runFor_eq (congrArg Option.isSome isWatcher) isSink rounds
  have beginning : { watcher, around := service.started.around : Scene }.calls = service.calls :=
    started_calls service
  cases rounds with
  | zero =>
      refine ⟨service.started.finished, runs, ?_, rfl⟩
      refine rests_of_withheld isWatcher rfl beginning (.refl cancelled) isWatcher ?_
      rw [finished_calls, started_calls, beginning]
  | succ rounds =>
      rcases @poll_of_cancelled { watcher, around := service.started.around } prepared cancelled with
        ⟨waiting, after, polled, withheld⟩
      have ended := @pollOnce_of_scene _ sink _ (started_scene? isWatcher)
      rw [polled] at ended
      dsimp only at ended
      rw [handleFailure_apply, if_pos (by cases waiting <;> rfl)] at ended
      have running : service.started.around.running = true := rfl
      rw [pollRounds_succ, if_pos running, ended] at runs
      refine ⟨_, runs, rests_of_withheld isWatcher rfl beginning withheld rfl ?_, rfl⟩
      rw [finished_calls, noted_calls]
      rfl

/-- A service on which a request to stop has left its mark asks for nothing when it is run. -/
theorem run_of_heeded {service : Service} (ready : service.IsReady) (heeded : service.Heeded) :
    exists done, run service = .ok () done ∧ done.heads = service.heads ∧
      done.gets = service.gets := by
  rcases runFor_of_heeded ready heeded service.roundsBound with
    ⟨done, runs, ⟨scene, later, isScene, isLater, withheld⟩, _⟩
  rcases Option.map_eq_some_iff.mp isScene with ⟨watcher, _, rfl⟩
  rcases Option.map_eq_some_iff.mp isLater with ⟨left, _, rfl⟩
  exact ⟨done, runs, withheld.heads, withheld.gets⟩

/-- The first poll of all does not wait, so it gets to its first request unless it was cancelled. -/
theorem heads_lt_pollOnce {service : Service} {watcher : Watcher}
    (isWatcher : service.watcher = some watcher) (prepared : watcher.isPrepared = true)
    (free : watcher.pause.isCancelled = false) (first : watcher.progress.hasPolled = false)
    (sink : Sink) : service.heads < (stateOf (pollOnce sink service.started)).heads := by
  unfold heads
  rw [(round_course sink service.started).calls_eq (started_scene? isWatcher)]
  have began := @Scene.begun_isCancelled_of_first { watcher, around := service.started.around } first
  have course := @probing_of_free { watcher, around := service.started.around } prepared
    (Bool.or_eq_false_iff.mpr ⟨Scene.isStranded_of_first first, began.trans free⟩)
  have sent := course.heads_eq
  rw [Scene.begun_heads] at sent
  rw [← started_calls service]
  exact Nat.lt_of_lt_of_eq (Nat.lt_succ_self _) sent.symm

/-- A service on which no request to stop has left its mark asks for metadata when it is run. -/
theorem run_of_fresh {service : Service} (ready : service.IsReady) (fresh : service.Fresh) :
    service.heads < (stateOf (run service)).heads := by
  rcases Option.isSome_iff_exists.mp ready.sink with ⟨sink, isSink⟩
  rcases ready.watcher with ⟨watcher, isWatcher, prepared⟩
  rcases fresh watcher isWatcher with ⟨free, first⟩
  have running : service.started.around.running = true := rfl
  have asked : service.heads < (stateOf (pollRounds sink service.roundsBound service.started)).heads :=
    Nat.lt_of_lt_of_le (heads_lt_pollOnce isWatcher prepared free first sink)
      (heads_pollOnce_le running (heads_le_pollRounds sink _))
  rw [run_eq ready isSink]
  cases ended : pollRounds sink service.roundsBound service.started with
  | ok value after =>
      rw [ended] at asked
      apply Nat.lt_of_lt_of_eq asked
      exact (congrArg (List.countP Call.isHead) (finished_calls after)).symm
  | error failure after =>
      rw [ended] at asked
      exact asked

/-! ## When a request to stop is heeded -/

/-- A service is prepared and asked to stop, in any order and any number of times, and then it runs.
If it had its watcher from the start, or if some request to stop came after it had begun to prepare,
the run comes to its end without a request to the store.  If not, every request to stop is lost: the
run asks for metadata as if there had been none. -/
theorem early_stop_heeded_iff_watched (start : Service) (commands : List Command)
    (succeeds : exists before after ready, commands = before ++ .prepare :: after ∧
      prepare (start.obey before) = .ok () ready)
    (stopped : Command.stop ∈ commands) :
    ((start.watcher.isSome = true ∨ exists before after, commands = before ++ .stop :: after ∧
        Command.prepare ∈ before) ->
      exists done, run (start.obey commands) = .ok () done ∧
        done.heads = (start.obey commands).heads ∧ done.gets = (start.obey commands).gets) ∧
    (¬ (start.watcher.isSome = true ∨ exists before after, commands = before ++ .stop :: after ∧
        Command.prepare ∈ before) ->
      (start.obey commands).heads < (stateOf (run (start.obey commands))).heads) := by
  have ready : (start.obey commands).IsReady := by
    rcases succeeds with ⟨before, after, ready, rfl, succeeds⟩
    rw [obey_append, obey_cons]
    apply (survives_obey after _).ready
    show (stateOf (prepare (start.obey before))).IsReady
    rw [succeeds]
    exact isReady_of_prepare succeeds
  constructor
  · intro watched
    apply run_of_heeded ready
    have marked : exists before after, commands = before ++ .stop :: after ∧
        (start.obey before).watcher.isSome = true := by
      rcases watched with given | ⟨before, after, split, begun⟩
      · rcases List.append_of_mem stopped with ⟨before, after, split⟩
        exact ⟨before, after, split, (survives_obey before start).watcher given⟩
      · refine ⟨before, after, split, ?_⟩
        cases present : start.watcher with
        | some watcher =>
            exact (survives_obey before start).watcher (congrArg Option.isSome present)
        | none =>
            cases described : start.settings.target with
            | ok target => exact obey_watcher_of_begun described begun
            | error rejection =>
                -- without a target no attempt to prepare makes a watcher, and none succeeds
                rcases ready.watcher with ⟨watcher, isWatcher, _⟩
                cases (obey_watcher_of_rejected present described commands).symm.trans isWatcher
    rcases marked with ⟨before, after, rfl, present⟩
    rw [obey_append, obey_cons]
    exact (survives_obey after _).heeded (heeded_of_stop present)
  · intro unwatched
    have absent : start.watcher = none := by
      cases present : start.watcher with
      | none => rfl
      | some watcher => exact absurd (Or.inl (congrArg Option.isSome present)) unwatched
    apply run_of_fresh ready
    apply fresh_of_early_stops absent
    intro before after split begun
    exact unwatched (Or.inr ⟨before, after, split, begun⟩)

/-- A service without a watcher, whose store has one version to report. -/
def unwatched : Service where
  settings := { bucket := "b", key := "k" }
  around := { remote := { heads := [{ outcome := .ok { tag := some "first" } }] } }

/-- The same request to stop is lost before the service is prepared and heeded after that. -/
theorem early_stop_heeded_iff_watched_around_prepare :
    (unwatched.obey [.stop, .prepare]).heads = 0 ∧
      0 < (stateOf (run (unwatched.obey [.stop, .prepare]))).heads ∧
      exists done, run (unwatched.obey [.prepare, .stop]) = .ok () done ∧
        done.heads = 0 ∧ done.gets = 0 := by
  have before : exists ready, prepare (unwatched.obey [.stop]) = .ok () ready := ⟨_, rfl⟩
  have after : exists ready, prepare (unwatched.obey []) = .ok () ready := ⟨_, rfl⟩
  rcases before with ⟨ready, succeeds⟩
  have lost := (early_stop_heeded_iff_watched unwatched [.stop, .prepare]
    ⟨[.stop], [], ready, rfl, succeeds⟩ (by decide)).2
  rcases after with ⟨ready, succeeds⟩
  have heeded := (early_stop_heeded_iff_watched unwatched [.prepare, .stop]
    ⟨[], [.stop], ready, rfl, succeeds⟩ (by decide)).1
  have unsent : (unwatched.obey [.stop, .prepare]).heads = 0 := by decide +kernel
  have sent := lost (by
    rintro (given | ⟨before, after, split, begun⟩)
    · cases given
    · -- the only request to stop is the first of all commands
      cases before with
      | nil => cases begun
      | cons first before =>
          have rest := (List.cons.inj split).2
          cases before with
          | nil => cases (List.cons.inj rest).1
          | cons second before => cases before <;> cases (List.cons.inj rest).2)
  rw [unsent] at sent
  rcases heeded (Or.inr ⟨[.prepare], [], rfl, List.mem_cons_self⟩) with ⟨done, ended, heads, gets⟩
  have idleHeads : (unwatched.obey [.prepare, .stop]).heads = 0 := by decide +kernel
  have idleGets : (unwatched.obey [.prepare, .stop]).gets = 0 := by decide +kernel
  exact ⟨unsent, sent, done, ended, heads.trans idleHeads, gets.trans idleGets⟩

end Service
end ObjectWatch
