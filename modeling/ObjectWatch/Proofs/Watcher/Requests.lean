import ObjectWatch.Proofs.Watcher.ChangeDetection

/-!
# The requests of a run

A poll waits unless it is the first one, then asks for metadata at most once, and then for content at
most once, which it does only if the request for metadata was answered.  A poll whose wait is too long
for the clock comes to its end with the wait.  What a poll looks at in between is whether it was
cancelled, so a cancellation that arrives before a request, also while the request before it is awaited,
keeps that request from being sent.  `Requested` says this for one poll and `Traced` for all polls of a
run, in which the caller may cancel and reset at will.

The pause is what carries a cancellation from one poll to the next.  Until it is reset, every poll
fails at once, and all that it leaves behind is one more wait: `Withheld`.
-/

namespace ObjectWatch

open Watcher

/-! ## What a poll leaves alone -/

/-- A watcher as it was set up, and whether it has polled.  Its pause, the token, the state of
decoding and the counters are what a poll changes after its wait. -/
def Watcher.lasting (watcher : Watcher) : Watcher :=
  { watcher with pause := {}, progress := { hasPolled := watcher.progress.hasPolled }, tally := {} }

/-- Watchers that agree in what lasts agree in each part of it. -/
theorem Watcher.parts_of_lasting {watcher other : Watcher}
    (same : watcher.lasting = other.lasting) :
    watcher.target = other.target ∧ watcher.interval = other.interval ∧
      watcher.isPrepared = other.isPrepared ∧
      watcher.progress.hasPolled = other.progress.hasPolled := by
  have target := congrArg Watcher.target same
  have interval := congrArg Watcher.interval same
  have isPrepared := congrArg Watcher.isPrepared same
  have hasPolled := congrArg (fun watcher => watcher.progress.hasPolled) same
  exact ⟨target, interval, isPrepared, hasPolled⟩

/-- How a request to stop reaches the service, and whether a cancellation of the next wait is announced.
Requests change nothing about that. -/
def Surroundings.standing (around : Surroundings) : Stopper × Bool :=
  (around.stopper, around.nextWaitCancelled)

theorem Scene.interrupt_standing (interruption : Interruption) (scene : Scene) :
    (scene.interrupt interruption).around.standing = scene.around.standing := by
  unfold Surroundings.standing
  rw [interrupt_stopper, interrupt_nextWaitCancelled]

/-! ## The requests of one poll -/

/-- The requests that a poll sends from a scene on in which its first request is due, and whether
the pause is cancelled in the end.  Metadata is not asked for if the pause is cancelled already, and
content only after an answer, and only if no cancellation came with it. -/
inductive Requested (target : Target) (scene : Scene) : List Call -> Bool -> Prop where
  | nothing (cancelled : scene.watcher.pause.isCancelled = true) : Requested target scene [] true
  | metadata (free : scene.watcher.pause.isCancelled = false) :
      Requested target scene [.head target.bucket target.key]
        (scene.headReply.interruption.cancelsIn scene.around.stopper)
  | content (metadata : Metadata) (free : scene.watcher.pause.isCancelled = false)
      (answered : scene.headReply.outcome = .ok metadata)
      (undisturbed : scene.headReply.interruption.cancelsIn scene.around.stopper = false) :
      Requested target scene
        [.head target.bucket target.key, .get target.bucket target.key]
        (scene.getReply.interruption.cancelsIn scene.around.stopper)

theorem OpeningCourse.lasting_eq {scene : Scene} {token : String} {body : Body}
    {encoding : Option String} {result : PollEnd}
    (course : OpeningCourse scene token body encoding result) :
    (stateOf result).watcher.lasting = scene.watcher.lasting ∧
      (stateOf result).watcher.pause = scene.watcher.pause := by
  cases course with
  | raw asIs => exact ⟨rfl, rfl⟩
  | unpacked stream unpacks opened =>
      refine ⟨?_, rfl⟩
      simp only [stateOf, Scene.counted_watcher, Scene.remembered_watcher, Watcher.lasting,
        Progress.markDecoded]
      cases scene.watcher.progress.decodeState <;> rfl
  | broken cause left unpacks failed unrelated => exact ⟨rfl, rfl⟩
  | notGzip cause left unpacks failed spoils =>
      have lasting := congrArg Watcher.lasting (scene.givenUp_watcher cause)
      have pause := congrArg Watcher.pause (scene.givenUp_watcher cause)
      exact ⟨lasting, pause⟩

theorem OpeningCourse.standing_eq {scene : Scene} {token : String} {body : Body}
    {encoding : Option String} {result : PollEnd}
    (course : OpeningCourse scene token body encoding result) :
    (stateOf result).around.standing = scene.around.standing := by
  cases course with
  | raw asIs => rfl
  | unpacked stream unpacks opened => rfl
  | broken cause left unpacks failed unrelated => rfl
  | notGzip cause left unpacks failed spoils =>
      rw [stateOf]
      unfold Scene.givenUp
      cases Notice.ofDisabling? scene.watcher.progress <;> rfl

namespace RetrievalCourse

variable {scene : Scene} {token : String} {result : PollEnd}

theorem standing_eq (course : RetrievalCourse scene token result) :
    (stateOf result).around.standing = scene.around.standing := by
  have retrieved : scene.retrieved.around.standing = scene.around.standing :=
    Scene.interrupt_standing _ _
  cases course with
  | stopped cancelled => rfl
  | aborted cause free outcome aborts => exact retrieved
  | failed cause free outcome ordinary => exact retrieved
  | delivered body encoding result free outcome course => exact course.standing_eq.trans retrieved

theorem lasting_eq (course : RetrievalCourse scene token result) :
    (stateOf result).watcher.lasting = scene.watcher.lasting := by
  cases course with
  | stopped cancelled => rfl
  | aborted cause free outcome aborts =>
      simp only [stateOf, Scene.retrieved_watcher]
      rfl
  | failed cause free outcome ordinary =>
      simp only [stateOf, Scene.note_watcher, Scene.counted_watcher, Scene.retrieved_watcher]
      rfl
  | delivered body encoding result free outcome course =>
      rw [course.lasting_eq.1, Scene.counted_watcher, Scene.retrieved_watcher]
      rfl

/-- After a retrieval the pause is cancelled if the poll was cancelled before it or during it. -/
theorem isCancelled_eq (course : RetrievalCourse scene token result) :
    (stateOf result).watcher.pause.isCancelled =
      (scene.watcher.pause.isCancelled ||
        scene.getReply.interruption.cancelsIn scene.around.stopper) := by
  have retrieved : scene.retrieved.watcher.pause.isCancelled =
      (scene.watcher.pause.isCancelled ||
        scene.getReply.interruption.cancelsIn scene.around.stopper) := by
    rw [Scene.retrieved_watcher]
    cases scene.getReply.interruption.cancelsIn scene.around.stopper <;> simp [Pause.cancel]
  cases course with
  | stopped cancelled => simp [stateOf, cancelled]
  | aborted cause free outcome aborts => exact retrieved
  | failed cause free outcome ordinary => exact retrieved
  | delivered body encoding result free outcome course =>
      rw [course.lasting_eq.2]
      exact retrieved

end RetrievalCourse

namespace ProbeCourse

variable {scene : Scene} {result : PollEnd}

theorem standing_eq (course : ProbeCourse scene result) :
    (stateOf result).around.standing = scene.around.standing := by
  have probed : scene.probed.around.standing = scene.around.standing :=
    Scene.interrupt_standing _ _
  cases course with
  | aborted cause outcome aborts => exact probed
  | failed cause outcome ordinary => exact probed
  | unchanged metadata outcome known => exact probed
  | changed metadata result outcome new course => exact course.standing_eq.trans probed

theorem lasting_eq (course : ProbeCourse scene result) :
    (stateOf result).watcher.lasting = scene.watcher.lasting := by
  have probed : scene.probed.watcher.lasting = scene.watcher.lasting := by
    rw [Scene.probed_watcher]
    rfl
  cases course with
  | aborted cause outcome aborts => exact probed
  | failed cause outcome ordinary => exact probed
  | unchanged metadata outcome known => exact probed
  | changed metadata result outcome new course => exact course.lasting_eq.trans probed

/-- A poll that is not cancelled before its first request asks for metadata, and perhaps for content
after that. -/
theorem requested (course : ProbeCourse scene result)
    (free : scene.watcher.pause.isCancelled = false) :
    exists requests, (stateOf result).calls = scene.calls ++ requests ∧
      Requested scene.watcher.target scene requests
        (stateOf result).watcher.pause.isCancelled := by
  have cancelled : scene.probed.watcher.pause.isCancelled =
      scene.headReply.interruption.cancelsIn scene.around.stopper := by
    rw [Scene.probed_watcher]
    cases scene.headReply.interruption.cancelsIn scene.around.stopper <;> simp [free, Pause.cancel]
  have asked : Requested scene.watcher.target scene
      [.head scene.watcher.target.bucket scene.watcher.target.key]
      scene.probed.watcher.pause.isCancelled := by
    rw [cancelled]
    exact .metadata free
  cases course with
  | aborted cause outcome aborts => exact ⟨_, by simp [stateOf], asked⟩
  | failed cause outcome ordinary => exact ⟨_, by simp [stateOf], asked⟩
  | unchanged metadata outcome known => exact ⟨_, by simp [stateOf], asked⟩
  | changed metadata result outcome new course =>
      have pause := course.isCancelled_eq
      rw [Scene.committed_watcher, Scene.counted_watcher, cancelled] at pause
      have calls := course.calls
      rw [Scene.committed_watcher, Scene.counted_watcher, cancelled, Scene.committed_calls,
        Scene.counted_calls, Scene.probed_calls, Scene.probed_watcher] at calls
      cases disturbed : scene.headReply.interruption.cancelsIn scene.around.stopper with
      | true =>
          -- the cancellation that came with the answer is met before the second request
          rw [disturbed, if_pos rfl, List.append_nil] at calls
          rw [disturbed, Bool.true_or] at pause
          refine ⟨_, calls, ?_⟩
          rw [pause, ← disturbed]
          exact .metadata free
      | false =>
          rw [disturbed, if_neg Bool.false_ne_true, List.append_assoc] at calls
          rw [disturbed, Bool.false_or] at pause
          refine ⟨_, calls, ?_⟩
          rw [pause]
          have reply : ((scene.probed.counted (Tally.recordProbe true)).committed
              metadata.token).getReply = scene.getReply := by
            unfold Scene.getReply
            rw [Scene.committed_remote, Scene.counted_around, Scene.probed_remote]
            rfl
          have stopper : ((scene.probed.counted (Tally.recordProbe true)).committed
              metadata.token).around.stopper = scene.around.stopper := scene.probed_stopper
          rw [reply, stopper]
          exact .content metadata free outcome disturbed

end ProbeCourse

/-! ## Polls of a watcher that is cancelled -/

/-- Nothing was asked of the store between two scenes, nothing was learnt, and nothing was counted,
and the watcher is still cancelled. -/
structure Withheld (before after : Scene) : Prop where
  heads : after.heads = before.heads
  gets : after.gets = before.gets
  token : after.watcher.progress.token = before.watcher.progress.token
  decodeState : after.watcher.progress.decodeState = before.watcher.progress.decodeState
  tally : after.watcher.tally = before.watcher.tally
  isPrepared : after.watcher.isPrepared = before.watcher.isPrepared
  isCancelled : after.watcher.pause.isCancelled = true

namespace Withheld

theorem refl {scene : Scene} (cancelled : scene.watcher.pause.isCancelled = true) :
    Withheld scene scene :=
  ⟨rfl, rfl, rfl, rfl, rfl, rfl, cancelled⟩

theorem trans {first second third : Scene} (left : Withheld first second)
    (right : Withheld second third) : Withheld first third :=
  ⟨right.heads.trans left.heads, right.gets.trans left.gets, right.token.trans left.token,
    right.decodeState.trans left.decodeState, right.tally.trans left.tally,
    right.isPrepared.trans left.isPrepared, right.isCancelled⟩

end Withheld

namespace Scene

variable {scene : Scene}

/-- A wait does not take a cancellation back. -/
theorem waited_isCancelled (cancelled : scene.watcher.pause.isCancelled = true) :
    scene.waited.watcher.pause.isCancelled = true := by
  rw [waited_watcher]
  simp only
  split
  · rfl
  · exact cancelled

theorem begun_isCancelled (cancelled : scene.watcher.pause.isCancelled = true) :
    scene.begun.watcher.pause.isCancelled = true := by
  rw [begun_watcher]
  simp only
  split
  · exact waited_isCancelled cancelled
  · exact cancelled

theorem withheld_begun (cancelled : scene.watcher.pause.isCancelled = true) :
    Withheld scene scene.begun where
  heads := scene.begun_heads
  gets := scene.begun_gets
  token := by rw [begun_watcher]; rfl
  decodeState := by rw [begun_watcher]; rfl
  tally := by rw [begun_watcher]
  isPrepared := by rw [begun_watcher]; rfl
  isCancelled := begun_isCancelled cancelled

theorem withheld_waited (cancelled : scene.watcher.pause.isCancelled = true) :
    Withheld scene scene.waited where
  heads := by simp [heads, Call.isHead]
  gets := by simp [gets, Call.isGet]
  token := by rw [waited_watcher]
  decodeState := by rw [waited_watcher]
  tally := by rw [waited_watcher]
  isPrepared := by rw [waited_watcher]; rfl
  isCancelled := waited_isCancelled cancelled

end Scene

/-- A poll of a cancelled watcher fails for that reason and sends nothing. -/
theorem poll_of_cancelled {scene : Scene} (prepared : scene.watcher.isPrepared = true)
    (cancelled : scene.watcher.pause.isCancelled = true) :
    exists waiting after, poll scene = .error (.cancelled waiting) after ∧
      Withheld scene after := by
  have course := poll_course scene
  cases ended : poll scene with
  | ok content after =>
      rw [ended] at course
      cases course with
      | probing result prepared free course =>
          cases (Scene.begun_isCancelled cancelled).symm.trans (Scene.begun_free free)
  | error failure after =>
      rw [ended] at course
      cases course with
      | notPrepared unprepared =>
          rw [prepared] at unprepared
          cases unprepared
      | waitRefused prepared stranded =>
          cases stranded.symm.trans (Scene.isStranded_of_cancelled cancelled)
      | stoppedWaiting prepared polled paced stopped =>
          exact ⟨true, _, rfl, Scene.withheld_waited cancelled⟩
      | stoppedBefore prepared first stopped =>
          exact ⟨false, _, rfl, Scene.withheld_begun cancelled⟩
      | probing result prepared free course =>
          cases (Scene.begun_isCancelled cancelled).symm.trans (Scene.begun_free free)

namespace Scene

/-- Until the pause is reset, nothing is asked of the store, whatever the caller does. -/
theorem withheld_run {scene : Scene} (prepared : scene.watcher.isPrepared = true)
    (cancelled : scene.watcher.pause.isCancelled = true) (moves : List Move)
    (unreset : Move.reset ∉ moves) : Withheld scene (scene.run moves) := by
  induction moves generalizing scene with
  | nil => exact .refl cancelled
  | cons move moves inductionHypothesis =>
      have step : Withheld scene (move.apply scene) := by
        cases move with
        | poll =>
            rcases poll_of_cancelled prepared cancelled with ⟨waiting, after, ended, withheld⟩
            show Withheld scene (stateOf (poll scene))
            rw [ended]
            exact withheld
        | cancel =>
            have calls := scene.cancel_calls
            exact ⟨congrArg (List.countP Call.isHead) calls, congrArg (List.countP Call.isGet) calls,
              rfl, rfl, rfl, rfl, rfl⟩
        | reset => exact False.elim (unreset List.mem_cons_self)
      exact step.trans (inductionHypothesis (step.isPrepared.trans prepared) step.isCancelled
        fun later => unreset (List.mem_cons_of_mem _ later))

end Scene

/-! ## The trace of a run -/

/-- The calls of each poll of a run: a wait, unless the poll is the first one ever, and then its
requests, or none if the wait was too long.  Between the polls nothing is called.  The target and the
interval are the same throughout. -/
inductive Traced (target : Target) (interval : Float) :
    Bool -> Scene -> List Move -> List (List Call) -> Prop where
  | nothing (first : Bool) (scene : Scene) : Traced target interval first scene [] []
  | poll {first : Bool} {scene : Scene} {requests : List Call} {moves : List Move}
      {traces : List (List Call)} (paced : scene.isStranded = false)
      (requested : Requested target scene.begun requests
        (Move.poll.apply scene).watcher.pause.isCancelled)
      (later : Traced target interval false (Move.poll.apply scene) moves traces) :
      Traced target interval first scene (.poll :: moves)
        (((if first then [] else [.wait interval]) ++ requests) :: traces)
  | stranded {scene : Scene} {moves : List Move} {traces : List (List Call)}
      (stranded : scene.isStranded = true)
      (failed : poll scene = .error (.foreign Clock.overflow) scene.waitCalled)
      (later : Traced target interval false scene.waitCalled moves traces) :
      Traced target interval false scene (.poll :: moves) ([.wait interval] :: traces)
  | cancel {first : Bool} {scene : Scene} {moves : List Move} {traces : List (List Call)}
      (later : Traced target interval first (Move.cancel.apply scene) moves traces) :
      Traced target interval first scene (.cancel :: moves) traces
  | reset {first : Bool} {scene : Scene} {moves : List Move} {traces : List (List Call)}
      (later : Traced target interval first (Move.reset.apply scene) moves traces) :
      Traced target interval first scene (.reset :: moves) traces

/-- What a poll of a prepared watcher leaves alone.  From the first poll on, the watcher has polled, also
if the poll failed or was cancelled. -/
theorem poll_lasting {scene : Scene} (prepared : scene.watcher.isPrepared = true) :
    (Move.poll.apply scene).watcher.lasting = scene.begun.watcher.lasting := by
  have began := scene.begun_watcher
  have course := poll_course scene
  show (stateOf (poll scene)).watcher.lasting = _
  generalize poll scene = result at course
  cases course with
  | notPrepared unprepared => cases prepared.symm.trans unprepared
  | waitRefused prepared stranded =>
      have polled := (Scene.isStranded_iff.mp stranded).1
      simp only [stateOf, began, Scene.waitCalled_watcher, Watcher.lasting, Progress.markPolled, polled]
  | stoppedWaiting prepared polled paced cancelled =>
      simp only [stateOf, began, Scene.waited_watcher, Watcher.lasting, Progress.markPolled, polled]
  | stoppedBefore prepared first cancelled => rfl
  | probing result prepared free course => exact course.lasting_eq

/-- The calls of one poll of a prepared watcher that can wait if it has to. -/
theorem poll_requested {scene : Scene} (prepared : scene.watcher.isPrepared = true)
    (paced : scene.isStranded = false) :
    exists requests,
      (Move.poll.apply scene).calls = scene.calls ++
        ((if scene.watcher.progress.hasPolled then [.wait scene.watcher.interval] else []) ++
          requests) ∧
      Requested scene.watcher.target scene.begun requests
        (Move.poll.apply scene).watcher.pause.isCancelled := by
  have began := scene.begun_watcher
  have course := poll_course scene
  show exists requests, (stateOf (poll scene)).calls = _ ∧
    Requested _ _ _ (stateOf (poll scene)).watcher.pause.isCancelled
  generalize poll scene = result at course
  cases course with
  | notPrepared unprepared => cases prepared.symm.trans unprepared
  | waitRefused prepared stranded => cases paced.symm.trans stranded
  | stoppedWaiting prepared polled paced cancelled =>
      have stopped := Scene.begun_isCancelled_of_waited polled cancelled
      refine ⟨[], by simp [stateOf, polled], ?_⟩
      simp only [stateOf, cancelled]
      exact .nothing stopped
  | stoppedBefore prepared first cancelled =>
      have stopped := Scene.begun_isCancelled cancelled
      refine ⟨[], ?_, ?_⟩
      · simp only [stateOf, Scene.begun_calls, List.append_nil]
      · simp only [stateOf, stopped]
        exact .nothing stopped
  | probing result prepared free course =>
      rcases course.requested (Scene.begun_free free) with ⟨requests, calls, requested⟩
      rw [began] at requested
      refine ⟨requests, ?_, requested⟩
      rw [calls, Scene.begun_calls, List.append_assoc]

namespace Scene

/-- The run of a prepared watcher: the calls of its polls, one poll after another. -/
theorem run_traced {scene : Scene} (prepared : scene.watcher.isPrepared = true)
    (moves : List Move) :
    exists traces,
      Traced scene.watcher.target scene.watcher.interval (!scene.watcher.progress.hasPolled) scene
        moves traces ∧
      (scene.run moves).calls = scene.calls ++ traces.flatten := by
  induction moves generalizing scene with
  | nil => exact ⟨[], .nothing _ scene, by simp⟩
  | cons move moves inductionHypothesis =>
      cases move with
      | poll =>
          cases stranded : scene.isStranded with
          | true =>
              have failed := poll_of_stranded prepared stranded
              have polled := (isStranded_iff.mp stranded).1
              have moved : Move.poll.apply scene = scene.waitCalled := by
                show stateOf (poll scene) = _
                rw [failed]
                rfl
              rcases @inductionHypothesis scene.waitCalled prepared with ⟨traces, traced, rest⟩
              rw [waitCalled_watcher, polled] at traced
              rw [polled]
              refine ⟨_, .stranded stranded failed traced, ?_⟩
              rw [run_cons, moved, rest, waitCalled_calls, List.flatten_cons, List.append_assoc]
          | false =>
              rcases poll_requested prepared stranded with ⟨requests, calls, requested⟩
              rcases Watcher.parts_of_lasting (poll_lasting prepared) with
                ⟨target, interval, still, polled⟩
              rw [scene.begun_watcher] at target interval polled still
              rcases inductionHypothesis (still.trans prepared) with ⟨traces, traced, rest⟩
              rw [target, interval, polled] at traced
              refine ⟨_, .poll stranded requested traced, ?_⟩
              rw [run_cons, rest, calls, List.flatten_cons, List.append_assoc]
              cases scene.watcher.progress.hasPolled <;> rfl
      | cancel =>
          rcases @inductionHypothesis scene.cancel prepared with ⟨traces, traced, rest⟩
          refine ⟨traces, .cancel traced, ?_⟩
          rw [cancel_calls] at rest
          exact rest
      | reset =>
          rcases @inductionHypothesis scene.resetPause prepared with ⟨traces, traced, rest⟩
          exact ⟨traces, .reset traced, rest⟩

/-- No move undoes the preparation of a watcher. -/
theorem run_isPrepared {scene : Scene} (prepared : scene.watcher.isPrepared = true)
    (moves : List Move) : (scene.run moves).watcher.isPrepared = true := by
  induction moves generalizing scene with
  | nil => exact prepared
  | cons move moves inductionHypothesis =>
      refine inductionHypothesis ?_
      cases move with
      | poll =>
          rw [(Watcher.parts_of_lasting (poll_lasting prepared)).2.2.1, begun_watcher]
          exact prepared
      | cancel => exact prepared
      | reset => exact prepared

theorem run_append (moves later : List Move) (scene : Scene) :
    scene.run (moves ++ later) = (scene.run moves).run later :=
  List.foldl_append

end Scene

/-! ## The law of requests and cancellation -/

/-- Whatever a caller does with a prepared watcher, the calls to the pause and to the store are those
of its polls, one poll after another: no wait for the first poll ever and one wait of the configured
interval for every other one, then at most one request for the metadata of the configured object,
and then at most one for its content, which needs an answer to the request before.  When the wait is too
long for the clock it is the only call, and nothing has changed.  A cancellation by the caller takes
effect at once, and one that arrives with a reply before the next request.  From then on until a reset,
nothing is asked of the store, and every poll that is begun fails as cancelled and leaves the token, the
state of decoding and the counters as they were. -/
theorem requests_in_order {start : Scene} (prepared : start.watcher.isPrepared = true)
    (moves : List Move) :
    (exists traces,
      Traced start.watcher.target start.watcher.interval (!start.watcher.progress.hasPolled) start
        moves traces ∧
      (start.run moves).calls = start.calls ++ traces.flatten) ∧
    (start.run (moves ++ [.cancel])).watcher.pause.isCancelled = true ∧
    ((start.run moves).watcher.pause.isCancelled = true -> forall later, Move.reset ∉ later ->
      Withheld (start.run moves) (start.run (moves ++ later)) ∧
      exists waiting after,
        poll (start.run (moves ++ later)) = .error (.cancelled waiting) after ∧
        Withheld (start.run (moves ++ later)) after) := by
  refine ⟨Scene.run_traced prepared moves, ?_, fun cancelled later unreset => ?_⟩
  · rw [Scene.run_append]
    rfl
  · rw [Scene.run_append]
    have ready := Scene.run_isPrepared prepared moves
    have withheld := Scene.withheld_run ready cancelled later unreset
    exact ⟨withheld, poll_of_cancelled (withheld.isPrepared.trans ready) withheld.isCancelled⟩

/-- A store whose second version is reported together with a cancellation. -/
def cancelledMidway : Scene where
  watcher :=
    { target := { bucket := "b", key := "k" }
      credentials := some (Credentials.resolve { bucket := "b", key := "k" } []) }
  around :=
    { remote :=
        { heads :=
            [{ outcome := .ok { tag := some "first" } },
              { interruption := { cancels := true }, outcome := .ok { tag := some "second" } },
              { outcome := .ok { tag := some "third" } }]
          gets := [{ outcome := .ok { body := some (.ofBytes [1]) } }] } }

/-- The second version is not asked for.  Polling once more is in vain, and so it is after the caller
has cancelled as well. -/
theorem requests_in_order_cancelled_midway :
    cancelledMidway.watcher.isPrepared = true ∧
      (cancelledMidway.run [.poll, .poll]).heads = 2 ∧
      (exists traces,
        Traced cancelledMidway.watcher.target cancelledMidway.watcher.interval true cancelledMidway
          [.poll, .poll] traces ∧
        (cancelledMidway.run [.poll, .poll]).calls = traces.flatten) ∧
      Withheld (cancelledMidway.run [.poll, .poll])
        (cancelledMidway.run [.poll, .poll, .poll, .cancel]) ∧
      exists waiting after,
        poll (cancelledMidway.run [.poll, .poll, .poll, .cancel]) =
          .error (.cancelled waiting) after ∧
        after.heads = 2 ∧ after.gets = 1 := by
  have ready : cancelledMidway.watcher.isPrepared = true := rfl
  have stopped : (cancelledMidway.run [.poll, .poll]).watcher.pause.isCancelled = true := by
    decide +kernel
  have heads : (cancelledMidway.run [.poll, .poll]).heads = 2 := by decide +kernel
  have gets : (cancelledMidway.run [.poll, .poll]).gets = 1 := by decide +kernel
  rcases requests_in_order ready [.poll, .poll] with ⟨⟨traces, traced, calls⟩, _, inVain⟩
  rcases inVain stopped [.poll, .cancel] (by decide) with
    ⟨withheld, waiting, after, ended, still⟩
  refine ⟨ready, heads, ⟨traces, traced, calls⟩, withheld, waiting, after, ended, ?_, ?_⟩
  · exact (still.heads.trans withheld.heads).trans heads
  · exact (still.gets.trans withheld.gets).trans gets

end ObjectWatch
