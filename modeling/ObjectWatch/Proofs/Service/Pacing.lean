import ObjectWatch.Proofs.Service.GracefulStop
import ObjectWatch.Proofs.Settings.Interval

/-!
# How polls are paced

A watcher takes its interval from its target when it is prepared, and nothing changes the interval after
that: neither a poll nor a request to stop, and preparing once more gives the same interval again.  So every
wait of a watcher, and of a service that made its watcher from accepted settings, is for the interval that
was configured or, without one, for the default.

This interval is greater than zero exactly if it is a number.  What is no number passes the checks as well,
and then every wait is for no positive time.
-/

namespace ObjectWatch

open Watcher

/-- The calls that were added are no waits but ones for the given time. -/
def WaitsFor (seconds : Float) (before after : List Call) : Prop :=
  exists added, after = before ++ added ∧ forall time, Call.wait time ∈ added -> time = seconds

namespace WaitsFor

variable {seconds : Float}

theorem of_eq {before after : List Call} (same : after = before) : WaitsFor seconds before after :=
  ⟨[], same.trans (List.append_nil _).symm, fun _ impossible => absurd impossible List.not_mem_nil⟩

theorem trans {first second third : List Call} (left : WaitsFor seconds first second)
    (right : WaitsFor seconds second third) : WaitsFor seconds first third := by
  rcases left with ⟨added, rfl, waits⟩
  rcases right with ⟨later, rfl, waitsLater⟩
  refine ⟨added ++ later, List.append_assoc _ _ _, fun time member => ?_⟩
  rcases List.mem_append.mp member with early | late
  · exact waits time early
  · exact waitsLater time late

end WaitsFor

/-! ## The watcher -/

/-- The waits of the watcher are for the given time, also after it is prepared again. -/
structure Watcher.PacedBy (seconds : Float) (watcher : Watcher) : Prop where
  target : watcher.target.intervalInUse = seconds
  interval : watcher.isPrepared = true -> watcher.interval = seconds

/-- Between two scenes the pace was kept. -/
structure Scene.KeepsPace (seconds : Float) (before after : Scene) : Prop where
  paced : after.watcher.PacedBy seconds
  waits : WaitsFor seconds before.calls after.calls

namespace PreparationCourse

variable {seconds : Float} {scene : Scene} {result : PreparationEnd}

/-- A preparation does not wait. -/
theorem waits (course : PreparationCourse scene result) (seconds : Float) :
    WaitsFor seconds scene.calls (stateOf result).calls := by
  rcases course.calls with ⟨same, _⟩ | ⟨more, _⟩
  · exact .of_eq same
  · refine ⟨_, more, fun time member => ?_⟩
    split at member
    · cases List.mem_singleton.mp member
    · exact absurd member List.not_mem_nil

/-- A watcher that was prepared goes by its target, whatever its interval was before. -/
theorem paced_of_ok {after : Scene} (course : PreparationCourse scene (.ok () after)) :
    after.watcher.PacedBy scene.watcher.target.intervalInUse := by
  cases course with
  | prepared named built =>
      rw [scene.equipped_watcher]
      exact ⟨scene.watcher.target.completed_intervalInUse, fun _ => rfl⟩

theorem keepsPace (course : PreparationCourse scene result) (paced : scene.watcher.PacedBy seconds) :
    scene.KeepsPace seconds (stateOf result) where
  paced := by
    cases course with
    | bucketMissing missing => exact paced
    | keyMissing found missing => exact paced
    | clientFailed fault named builds fails =>
        rw [stateOf, scene.connecting_watcher]
        exact ⟨scene.watcher.target.completed_intervalInUse.trans paced.target, fun _ => paced.target⟩
    | prepared named built => exact paced.target ▸ (PreparationCourse.prepared named built).paced_of_ok
  waits := course.waits seconds

end PreparationCourse

/-- A request is no wait. -/
theorem Requested.not_wait {target : Target} {scene : Scene} {requests : List Call} {cancelled : Bool}
    (requested : Requested target scene requests cancelled) (time : Float) :
    Call.wait time ∉ requests := by
  cases requested <;> simp

namespace Scene

variable {seconds : Float}

theorem keepsPace_poll {scene : Scene} (paced : scene.watcher.PacedBy seconds) :
    scene.KeepsPace seconds (stateOf (poll scene)) := by
  cases prepared : scene.watcher.isPrepared with
  | false =>
      have course := poll_course scene
      generalize poll scene = result at course
      cases course with
      | notPrepared unprepared => exact ⟨paced, .of_eq rfl⟩
      | waitRefused ready stranded => cases prepared.symm.trans ready
      | stoppedWaiting ready polled paced cancelled => cases prepared.symm.trans ready
      | stoppedBefore ready first cancelled => cases prepared.symm.trans ready
      | probing result ready free course => cases prepared.symm.trans ready
  | true =>
      rcases Watcher.parts_of_lasting (poll_lasting prepared) with ⟨target, interval, still, _⟩
      rw [scene.begun_watcher] at target interval still
      have still : (Move.poll.apply scene).watcher.PacedBy seconds :=
        ⟨(congrArg Target.intervalInUse target).trans paced.target,
          fun _ => interval.trans (paced.interval prepared)⟩
      cases stranded : scene.isStranded with
      | true =>
          have calls : (stateOf (poll scene)).calls = scene.calls ++ [.wait scene.watcher.interval] := by
            rw [poll_of_stranded prepared stranded]
            exact scene.waitCalled_calls
          refine ⟨still, _, calls, fun time member => ?_⟩
          cases List.mem_singleton.mp member
          exact paced.interval prepared
      | false =>
          rcases poll_requested prepared stranded with ⟨requests, calls, requested⟩
          refine ⟨still, _, calls, fun time member => ?_⟩
          rcases List.mem_append.mp member with wait | request
          · split at wait
            · cases List.mem_singleton.mp wait
              exact paced.interval prepared
            · exact absurd wait List.not_mem_nil
          · exact absurd request (requested.not_wait time)

theorem keepsPace_move {scene : Scene} (paced : scene.watcher.PacedBy seconds) (move : Move) :
    scene.KeepsPace seconds (move.apply scene) := by
  cases move with
  | poll => exact keepsPace_poll paced
  | cancel => exact ⟨⟨paced.target, paced.interval⟩, .of_eq scene.cancel_calls⟩
  | reset => exact ⟨⟨paced.target, paced.interval⟩, .of_eq rfl⟩

theorem keepsPace_run {scene : Scene} (paced : scene.watcher.PacedBy seconds) (moves : List Move) :
    scene.KeepsPace seconds (scene.run moves) := by
  induction moves generalizing scene with
  | nil => exact ⟨paced, .of_eq rfl⟩
  | cons move moves inductionHypothesis =>
      have step := keepsPace_move paced move
      have later := inductionHypothesis step.paced
      exact ⟨later.paced, step.waits.trans later.waits⟩

end Scene

/-! ## The service -/

namespace Service

variable {seconds : Float} {service : Service} {sink : Sink}

/-- The watcher that the service has, or would make, waits for the given time. -/
def PacedBy (seconds : Float) (service : Service) : Prop :=
  forall watcher, service.candidate = .ok watcher -> watcher.PacedBy seconds

/-- Between two services the pace was kept. -/
structure KeepsPace (seconds : Float) (before after : Service) : Prop where
  paced : after.PacedBy seconds
  waits : WaitsFor seconds before.calls after.calls

theorem KeepsPace.refl (paced : service.PacedBy seconds) : service.KeepsPace seconds service :=
  ⟨paced, .of_eq rfl⟩

theorem KeepsPace.trans {first second third : Service} (left : first.KeepsPace seconds second)
    (right : second.KeepsPace seconds third) : first.KeepsPace seconds third :=
  ⟨right.paced, left.waits.trans right.waits⟩

/-- A service keeps the pace if its watcher does. -/
theorem KeepsPace.of_scene {watcher : Watcher} {later : Scene} {after : Service}
    (kept : Scene.KeepsPace seconds { watcher, around := service.around } later)
    (left : after.watcher = some later.watcher) (calls : after.calls = later.calls) :
    service.KeepsPace seconds after where
  paced current isMade := by
    cases (candidate_of_some left).symm.trans isMade
    exact kept.paced
  waits := by
    rw [calls]
    exact kept.waits

theorem keepsPace_prepare (paced : service.PacedBy seconds) :
    service.KeepsPace seconds (stateOf (prepare service)) := by
  cases isMade : service.candidate with
  | error rejection =>
      rw [prepare_of_rejected isMade]
      refine ⟨fun watcher made => ?_, .of_eq (noted_calls _ _)⟩
      have same : service.candidate = .ok watcher := made
      cases isMade.symm.trans same
  | ok watcher =>
      rw [prepare_of_candidate isMade]
      have course := preparation_course { watcher, around := (service.noted .preparing).around }
      have kept := course.keepsPace (paced watcher isMade)
      have told : WaitsFor seconds service.calls (service.noted .preparing).calls :=
        .of_eq (noted_calls _ _)
      cases ended : Watcher.prepare { watcher, around := (service.noted .preparing).around } with
      | error failure scene =>
          rw [ended] at kept
          have kept : (service.noted .preparing).KeepsPace seconds
              ((service.noted .preparing).withScene scene) := .of_scene kept rfl rfl
          exact ⟨kept.paced, told.trans kept.waits⟩
      | ok value scene =>
          rw [ended] at kept
          have kept : (service.noted .preparing).KeepsPace seconds
              ((service.noted .preparing).fitted scene) := .of_scene kept rfl (noted_calls _ _)
          exact ⟨kept.paced, told.trans kept.waits⟩

theorem keepsPace_stop (paced : service.PacedBy seconds) :
    service.KeepsPace seconds (stateOf (stop service)) := by
  rw [stop_apply]
  cases isWatcher : service.watcher with
  | none =>
      refine ⟨fun watcher made => paced watcher ?_, .of_eq (noted_calls _ service)⟩
      have same : service.candidate = .ok watcher := made
      exact same
  | some watcher =>
      have before := paced watcher (candidate_of_some isWatcher)
      have kept : Scene.KeepsPace seconds { watcher, around := service.around }
          (Scene.stop { watcher, around := service.around }) :=
        ⟨⟨before.target, before.interval⟩, .of_eq (Scene.stop_calls _)⟩
      exact .of_scene kept rfl rfl

theorem keepsPace_obey (paced : service.PacedBy seconds) (commands : List Command) :
    service.KeepsPace seconds (service.obey commands) := by
  induction commands generalizing service with
  | nil => exact .refl paced
  | cons command commands inductionHypothesis =>
      have step : service.KeepsPace seconds (service.obeyed command) := by
        cases command with
        | prepare => exact keepsPace_prepare paced
        | stop => exact keepsPace_stop paced
      exact step.trans (inductionHypothesis step.paced)

theorem keepsPace_pollOnce (paced : service.PacedBy seconds) (sink : Sink) :
    service.KeepsPace seconds (stateOf (pollOnce sink service)) := by
  cases isScene : service.scene? with
  | none =>
      rw [pollOnce_of_no_scene isScene]
      exact .refl paced
  | some scene =>
      have course := round_course sink service
      rcases Option.map_eq_some_iff.mp isScene with ⟨watcher, isWatcher, rfl⟩
      have kept := @Scene.keepsPace_poll seconds { watcher, around := service.around }
        (paced watcher (candidate_of_some isWatcher))
      exact .of_scene kept (course.leaves isScene).watcher (course.calls_eq isScene)

theorem keepsPace_pollRounds (paced : service.PacedBy seconds) (sink : Sink) (rounds : Nat) :
    service.KeepsPace seconds (stateOf (pollRounds sink rounds service)) := by
  induction rounds generalizing service with
  | zero => exact .refl paced
  | succ rounds inductionHypothesis =>
      have step := keepsPace_pollOnce paced sink
      rw [pollRounds_succ]
      split
      · cases ended : pollOnce sink service with
        | error failure next =>
            rw [ended] at step
            exact step
        | ok goesOn next =>
            rw [ended] at step
            cases goesOn with
            | false => exact step
            | true => exact step.trans (inductionHypothesis step.paced)
      · exact .refl paced

theorem keepsPace_runFor (paced : service.PacedBy seconds) (rounds : Nat) :
    service.KeepsPace seconds (stateOf (runFor rounds service)) := by
  rcases service.equipped_or_notReady with ⟨ready, sink, isSink⟩ | unready
  · have begun : service.KeepsPace seconds service.started :=
      ⟨fun watcher made => paced watcher made, .of_eq (started_calls service)⟩
    have kept := begun.trans (keepsPace_pollRounds begun.paced sink rounds)
    rw [runFor_eq ready isSink]
    cases ended : pollRounds sink rounds service.started with
    | error failure after =>
        rw [ended] at kept
        exact kept
    | ok value after =>
        rw [ended] at kept
        exact kept.trans ⟨fun watcher made => kept.paced watcher made, .of_eq (finished_calls after)⟩
  · rw [unready]
    exact .refl paced

/-- A service without a watcher goes by its settings, if these were accepted. -/
theorem paced_of_accepted {sources : Sources} {settings : Settings}
    (accepted : sources.settings = .ok settings) (given : service.settings = settings)
    (absent : service.watcher = none) : service.PacedBy settings.interval := by
  intro watcher made
  unfold candidate at made
  rw [absent, given, Settings.target_of_accepted accepted] at made
  cases made
  refine ⟨Settings.described_intervalInUse accepted, fun prepared => ?_⟩
  cases prepared

/-- Every wait of a watcher with an accepted target is for the interval in use of the target, whatever is
done with the watcher once it is prepared, and every wait of a service with accepted settings is for their
interval, however often it is prepared and asked to stop before its run.  The interval is greater than zero
unless what was given is no number; then it passes the checks of the settings and of the target as well, and
no wait is for a positive time. -/
theorem paced_iff_number {fields : List (String × Value)} {target : Target} {sources : Sources}
    {settings : Settings} (acceptedTarget : Target.ofFields fields = .ok target)
    (accepted : sources.settings = .ok settings) :
    ((0.0 < target.intervalInUse ↔ ¬ target.HasNaN) ∧
      forall (start ready : Scene) (moves : List Move), start.watcher.target = target ->
        Watcher.prepare start = .ok () ready ->
          (ready.run moves).watcher.interval = target.intervalInUse ∧
          WaitsFor target.intervalInUse start.calls (ready.run moves).calls) ∧
    (0.0 < settings.interval ↔ settings.interval.isNaN = false) ∧
      forall (start : Service) (commands : List Command) (rounds : Nat),
        start.settings = settings -> start.watcher = none ->
          (forall watcher, (stateOf (runFor rounds (start.obey commands))).watcher = some watcher ->
            watcher.isPrepared = true -> watcher.interval = settings.interval) ∧
          WaitsFor settings.interval start.calls
            (stateOf (runFor rounds (start.obey commands))).calls := by
  refine ⟨⟨Target.intervalInUse_positive_iff acceptedTarget, ?_⟩,
    Settings.interval_positive_iff accepted, ?_⟩
  · intro start ready moves given succeeds
    have course := preparation_course start
    rw [succeeds] at course
    have paced := course.paced_of_ok
    rw [given] at paced
    have kept := Scene.keepsPace_run paced moves
    refine ⟨kept.paced.interval (Scene.run_isPrepared course.isPrepared_of_ok moves), ?_⟩
    exact (course.waits target.intervalInUse).trans kept.waits
  · intro start commands rounds given absent
    have obeyed := keepsPace_obey (paced_of_accepted accepted given absent) commands
    have ran := keepsPace_runFor obeyed.paced rounds
    refine ⟨fun watcher isWatcher => ?_, obeyed.waits.trans ran.waits⟩
    exact (ran.paced watcher (candidate_of_some isWatcher)).interval

/-- Settings whose interval is spelled as no number. -/
def timelessSources : Sources where
  environment := [("s3_bucket", "b"), ("s3_key", "k"), ("poll_interval_seconds", "nan")]
  reading := { isCaseSensitive := true }

/-- A target that says how long to wait. -/
def patientFields : List (String × Value) :=
  [("bucket", .text "b"), ("key", .text "k"), ("poll_interval_seconds", .int 5)]

/-- An interval of five seconds is kept.  One that is no number is accepted, and the service waits for it,
but for no positive time. -/
theorem paced_iff_number_for_five_and_nan :
    (exists target ready, Target.ofFields patientFields = .ok target ∧
      Watcher.prepare { watcher := { target } } = .ok () ready ∧
      0.0 < (ready.run [.poll, .poll]).watcher.interval) ∧
    exists settings, timelessSources.settings = .ok settings ∧
      exists time, Call.wait time ∈ (stateOf (runFor 2 (obey [.prepare] { settings }))).calls ∧
        ¬ 0.0 < time := by
  let target : Target := { bucket := "b", key := "k", interval := some 5.0 }
  let settings : Settings := { bucket := "b", key := "k", interval := 0.0 / 0.0 }
  have acceptedTarget : Target.ofFields patientFields = .ok target := rfl
  have accepted : timelessSources.settings = .ok settings := by with_unfolding_all rfl
  rcases paced_iff_number acceptedTarget accepted with ⟨⟨positive, polls⟩, positiveSettings, runs⟩
  constructor
  · have succeeds : exists ready, Watcher.prepare { watcher := { target } } = .ok () ready := ⟨_, rfl⟩
    rcases succeeds with ⟨ready, succeeds⟩
    refine ⟨target, ready, acceptedTarget, succeeds, ?_⟩
    rw [(polls _ ready [.poll, .poll] rfl succeeds).1, positive]
    rintro ⟨five, given, nothing⟩
    have number : Float.isNaN 5.0 = false := by decide +kernel
    rw [← Option.some.inj given] at nothing
    cases number.symm.trans nothing
  · have nothing : settings.interval.isNaN = true := by decide +kernel
    have waited : ((stateOf (runFor 2 (obey [.prepare] { settings }))).calls.any fun
        | .wait _ => true
        | _ => false) = true := by decide +kernel
    rcases runs { settings } [.prepare] 2 rfl rfl with ⟨_, added, calls, waits⟩
    rcases List.any_eq_true.mp waited with ⟨call, member, isWait⟩
    cases call with
    | wait time =>
        refine ⟨settings, accepted, time, member, ?_⟩
        rw [calls] at member
        have same : time = settings.interval := waits time member
        rw [same, positiveSettings, nothing]
        exact Bool.noConfusion
    | head bucket key => cases isWait
    | get bucket key => cases isWait
    | client options => cases isWait

end Service
end ObjectWatch
