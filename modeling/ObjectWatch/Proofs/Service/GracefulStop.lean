import ObjectWatch.Proofs.Service.EarlyStop
import ObjectWatch.Proofs.Service.FailureLimit
import ObjectWatch.Proofs.Watcher.Retrieval

/-!
# Stopping a service while it runs

A request to stop can reach a service while its watcher awaits a reply.  It leaves two marks, one that keeps
the service from beginning another round and one that cancels the pause of the watcher.  The poll in
progress goes on to its end, whatever the reply is: a new version that was only reported is not asked for,
and one that was served is still delivered.

The first mark is gone as soon as the service is run again.  The second one stays, so every later run comes
to its end without a request.
-/

namespace ObjectWatch

open Watcher

/-! ## Requests to stop during a poll -/

namespace Interruption

/-- Whether an interruption is a request to stop that reaches a service in the given way. -/
def stopsIn (interruption : Interruption) (stopper : Stopper) : Bool :=
  interruption.stops && stopper != .absent

/-- A request to stop cancels the pause. -/
theorem cancelsIn_of_stopsIn {interruption : Interruption} {stopper : Stopper}
    (stops : interruption.stopsIn stopper = true) : interruption.cancelsIn stopper = true := by
  unfold cancelsIn
  unfold stopsIn at stops
  rw [stops, Bool.or_true]

end Interruption

namespace Scene

/-- A request to stop reaches the service while the next poll awaits the reply to its probe. -/
def StoppedInProbe (scene : Scene) : Prop :=
  (stateOf (poll scene)).heads = scene.heads + 1 ∧
    scene.headReply.interruption.stopsIn scene.around.stopper = true

/-- A request to stop reaches the service while the next poll awaits content. -/
def StoppedInRetrieval (scene : Scene) : Prop :=
  (stateOf (poll scene)).gets = scene.gets + 1 ∧
    scene.getReply.interruption.stopsIn scene.around.stopper = true

variable {scene : Scene}

theorem interrupt_running (interruption : Interruption) (scene : Scene) :
    (scene.interrupt interruption).around.running =
      (scene.around.running && !interruption.stopsIn scene.around.stopper) := by
  rcases interruption with ⟨cancels, stops⟩
  cases cancels <;> cases stops <;> cases reached : scene.around.stopper <;>
    simp [interrupt, requestStop, Interruption.stopsIn, reached, stop, cancel, cancelPause, note,
      Surroundings.note]

theorem probed_running (scene : Scene) :
    scene.probed.around.running =
      (scene.around.running && !scene.headReply.interruption.stopsIn scene.around.stopper) :=
  interrupt_running _ _

theorem retrieved_running (scene : Scene) :
    scene.retrieved.around.running =
      (scene.around.running && !scene.getReply.interruption.stopsIn scene.around.stopper) :=
  interrupt_running _ _

end Scene

theorem OpeningCourse.running_eq {scene : Scene} {token : String} {body : Body}
    {encoding : Option String} {result : PollEnd}
    (course : OpeningCourse scene token body encoding result) :
    (stateOf result).around.running = scene.around.running := by
  cases course with
  | raw asIs => rfl
  | unpacked stream unpacks opened => rfl
  | broken cause left unpacks failed unrelated => rfl
  | notGzip cause left unpacks failed spoils =>
      rw [stateOf]
      unfold Scene.givenUp
      cases Notice.ofDisabling? scene.watcher.progress <;> rfl

/-- A service that was told to stop before a retrieval or during it is not to go on after it. -/
theorem RetrievalCourse.running_eq {scene : Scene} {token : String} {result : PollEnd}
    (course : RetrievalCourse scene token result) :
    (stateOf result).around.running =
      (scene.around.running && (scene.watcher.pause.isCancelled ||
        !scene.getReply.interruption.stopsIn scene.around.stopper)) := by
  have retrieved := scene.retrieved_running
  cases course with
  | stopped cancelled => simp [stateOf, cancelled]
  | aborted cause free outcome aborts =>
      rw [free, Bool.false_or]
      exact retrieved
  | failed cause free outcome ordinary =>
      rw [free, Bool.false_or]
      exact retrieved
  | delivered body encoding result free outcome course =>
      rw [free, Bool.false_or, course.running_eq]
      exact retrieved

/-- A poll that has sent a probe was prepared, and it was not cancelled before. -/
theorem Course.probing_of_heads {scene : Scene} {result : PollEnd} (course : Course scene result)
    (heads : (stateOf result).heads = scene.heads + 1) :
    scene.watcher.isPrepared = true ∧ scene.begun.watcher.pause.isCancelled = false ∧
      ProbeCourse scene.begun result := by
  cases course with
  | notPrepared unprepared => exact absurd heads (Nat.ne_of_lt (Nat.lt_succ_self _))
  | waitRefused prepared stranded =>
      rw [stateOf, scene.waitCalled_heads] at heads
      omega
  | stoppedWaiting prepared polled paced cancelled => simp [stateOf, Scene.heads, Call.isHead] at heads
  | stoppedBefore prepared first cancelled =>
      rw [stateOf, scene.begun_heads] at heads
      omega
  | probing result prepared free course => exact ⟨prepared, Scene.begun_free free, course⟩

/-- A service that is told to stop while its watcher awaits the reply to a probe is not to go on after the
poll. -/
theorem ProbeCourse.running_of_head {scene : Scene} {result : PollEnd}
    (course : ProbeCourse scene result)
    (stops : scene.headReply.interruption.stopsIn scene.around.stopper = true) :
    (stateOf result).around.running = false := by
  have probed : scene.probed.around.running = false := by
    rw [scene.probed_running, stops, Bool.not_true, Bool.and_false]
  cases course with
  | aborted cause outcome aborts => exact probed
  | failed cause outcome ordinary => exact probed
  | unchanged metadata outcome known => exact probed
  | changed metadata result outcome new course =>
      rw [course.running_eq]
      exact (congrArg (· && _) probed).trans (Bool.false_and _)

/-- A service that is told to stop while its watcher awaits content is not to go on after the poll. -/
theorem ProbeCourse.running_of_get {scene : Scene} {result : PollEnd}
    (course : ProbeCourse scene result) (asked : (stateOf result).gets = scene.gets + 1)
    (stops : scene.getReply.interruption.stopsIn scene.around.stopper = true) :
    (stateOf result).around.running = false := by
  cases course with
  | aborted cause outcome aborts => simp [stateOf, Scene.gets, Call.isGet] at asked
  | failed cause outcome ordinary => simp [stateOf, Scene.gets, Call.isGet] at asked
  | unchanged metadata outcome known => simp [stateOf, Scene.gets, Call.isGet] at asked
  | changed metadata result outcome new course =>
      have calls := course.calls
      have reply : ((scene.probed.counted (Tally.recordProbe true)).committed
          metadata.token).getReply = scene.getReply := by
        unfold Scene.getReply
        rw [Scene.committed_remote, Scene.counted_around, Scene.probed_remote]
        rfl
      have stopper : ((scene.probed.counted (Tally.recordProbe true)).committed
          metadata.token).around.stopper = scene.around.stopper := scene.probed_stopper
      rw [course.running_eq, reply, stopper, stops]
      cases cancelled : ((scene.probed.counted (Tally.recordProbe true)).committed
          metadata.token).watcher.pause.isCancelled with
      | true =>
          -- a cancelled poll does not ask for content
          rw [if_pos cancelled, List.append_nil] at calls
          unfold Scene.gets at asked
          rw [calls] at asked
          simp [Call.isGet] at asked
      | false => rw [Bool.not_true, Bool.false_or, Bool.and_false]

namespace Scene

/-- What a request to stop during a request of a poll leads to: the service is not to go on, the pause is
cancelled, and the poll sends nothing after that request. -/
structure Halts (scene : Scene) : Prop where
  prepared : scene.watcher.isPrepared = true
  running : (stateOf (poll scene)).around.running = false
  cancelled : (stateOf (poll scene)).watcher.pause.isCancelled = true
  heads : (stateOf (poll scene)).heads = scene.heads + 1

variable {scene : Scene}

theorem StoppedInProbe.halts (stopped : scene.StoppedInProbe) :
    scene.Halts ∧ (stateOf (poll scene)).gets = scene.gets := by
  rcases stopped with ⟨heads, stops⟩
  rcases (poll_course scene).probing_of_heads heads with ⟨prepared, free, course⟩
  have cancels := Interruption.cancelsIn_of_stopsIn stops
  rw [← scene.begun_headReply, ← scene.begun_stopper] at stops cancels
  refine ⟨⟨prepared, course.running_of_head stops, ?_, heads⟩, ?_⟩
  · rcases course.requested free with ⟨requests, _, requested⟩
    generalize (stateOf (poll scene)).watcher.pause.isCancelled = cancelled at requested
    cases requested with
    | nothing already => rfl
    | metadata free => exact cancels
    | content metadata free answered undisturbed => cases cancels.symm.trans undisturbed
  · rw [← scene.begun_gets]
    rcases course.gets_eq free with ⟨⟨_, undisturbed⟩, _⟩ | ⟨_, same⟩
    · cases cancels.symm.trans undisturbed
    · exact same

theorem StoppedInRetrieval.halts (stopped : scene.StoppedInRetrieval) : scene.Halts := by
  rcases stopped with ⟨gets, stops⟩
  have heads : (stateOf (poll scene)).heads = scene.heads + 1 := by
    rcases (poll_course scene).requests with ⟨heads, _, _⟩ | ⟨heads, _, _⟩ | ⟨_, same⟩
    · exact heads
    · exact heads
    · omega
  rcases (poll_course scene).probing_of_heads heads with ⟨prepared, free, course⟩
  have cancels := Interruption.cancelsIn_of_stopsIn stops
  have reply : scene.begun.getReply = scene.getReply := by
    unfold getReply
    rw [scene.begun_remote]
  rw [← reply, ← scene.begun_stopper] at stops cancels
  rw [← scene.begun_gets] at gets
  refine ⟨prepared, course.running_of_get gets stops, ?_, heads⟩
  rcases course.requested free with ⟨requests, calls, requested⟩
  unfold Scene.gets at gets
  rw [calls, List.countP_append] at gets
  generalize (stateOf (poll scene)).watcher.pause.isCancelled = cancelled at requested
  cases requested with
  | nothing already => rfl
  | metadata free => simp [Call.isGet] at gets
  | content metadata free answered undisturbed => exact cancels

/-- A request to stop during a poll. -/
theorem halts_of_stopped (stopped : scene.StoppedInProbe ∨ scene.StoppedInRetrieval) : scene.Halts := by
  rcases stopped with stopped | stopped
  · exact stopped.halts.1
  · exact stopped.halts

end Scene

/-! ## What is still delivered -/

/-- A poll that retrieves a body hands over its content exactly if the body does not have to be unpacked or
can be opened. -/
theorem Scene.returns_content_iff {scene : Scene} :
    (exists content after, poll scene = .ok (some content) after) ↔
      exists body encoding, scene.Retrieves body encoding ∧
        (scene.unpacks encoding = true -> exists stream, Gzip.openBody body = .ok stream) := by
  constructor
  · rintro ⟨content, after, polled⟩
    rcases Scene.retrieves_of_poll polled with ⟨metadata, body, encoding, _, _, retrieves, opening⟩
    refine ⟨body, encoding, retrieves, fun unpacks => ?_⟩
    rw [← scene.supplied_unpacks metadata.token] at unpacks
    cases opening with
    | raw asIs => cases asIs.symm.trans unpacks
    | unpacked stream unpacks opened => exact ⟨stream, opened⟩
  · rintro ⟨body, encoding, retrieves, opens⟩
    rcases (poll_course scene).opening retrieves.1 retrieves.2 with ⟨metadata, _, opening⟩
    generalize poll scene = result at opening
    rw [← scene.supplied_unpacks metadata.token] at opens
    cases opening with
    | raw asIs => exact ⟨_, _, rfl⟩
    | unpacked stream unpacks opened => exact ⟨_, _, rfl⟩
    | broken cause left unpacks failed unrelated =>
        rcases opens unpacks with ⟨stream, opened⟩
        cases failed.symm.trans opened
    | notGzip cause left unpacks failed spoils =>
        rcases opens unpacks with ⟨stream, opened⟩
        cases failed.symm.trans opened

namespace Service

/-- The content that the poll of a service hands to the sink. -/
def handedOver? (service : Service) : Option Content :=
  service.scene?.bind fun scene =>
    match poll scene with
    | .ok content _ => content
    | .error _ _ => none

/-- The storage after the delivery of content, if there is any. -/
def storageAfter (sink : Sink) (content : Option Content) (storage : Storage) : Storage :=
  match content with
  | some content => (stateOf (sink.deliver ⟨content, storage⟩)).place
  | none => storage

variable {sink : Sink} {service : Service} {scene : Scene}

theorem handedOver?_isSome_iff (isScene : service.scene? = some scene) :
    service.handedOver?.isSome = true ↔ exists content after, poll scene = .ok (some content) after := by
  unfold handedOver?
  rw [isScene, Option.bind_some]
  generalize poll scene = result
  cases result with
  | error failure after =>
      apply iff_of_false Bool.false_ne_true
      rintro ⟨content, other, impossible⟩
      cases impossible
  | ok content after =>
      cases content with
      | none =>
          apply iff_of_false Bool.false_ne_true
          rintro ⟨content, other, impossible⟩
          cases impossible
      | some content => exact iff_of_true rfl ⟨content, after, rfl⟩

end Service

/-- What a round leaves, whatever it makes of its poll. -/
structure RoundLeaves (sink : Sink) (service : Service) (scene : Scene) (left : Service) : Prop where
  watcher : left.watcher = some (stateOf (poll scene)).watcher
  around : exists journal running,
    left.around = { (stateOf (poll scene)).around with journal, running }
  sameSink : left.sink = service.sink
  /-- A service that was told to stop during its poll is not to go on. -/
  running : (stateOf (poll scene)).around.running = false -> left.around.running = false
  /-- What the poll handed over was delivered, and nothing else. -/
  storage : left.storage = Service.storageAfter sink service.handedOver? service.storage

namespace RoundLeaves

variable {sink : Sink} {service left : Service} {scene after : Scene}

/-- A round that adds nothing to its poll but what it notes and delivers. -/
theorem of_polled (polled : stateOf (poll scene) = after) (watcher : left.watcher = some after.watcher)
    (around : exists journal, left.around = { after.around with journal })
    (sameSink : left.sink = service.sink)
    (storage : left.storage = Service.storageAfter sink service.handedOver? service.storage) :
    RoundLeaves sink service scene left := by
  subst polled
  rcases around with ⟨journal, same⟩
  refine ⟨watcher, ⟨journal, _, same⟩, sameSink, fun halted => ?_, storage⟩
  rw [same]
  exact halted

/-- Counting a failure can keep a service from going on, and leaves the rest as it is. -/
theorem troubled (leaves : RoundLeaves sink service scene left) (notice : Report -> Nat -> Notice)
    (report : Report) : RoundLeaves sink service scene (left.troubled notice report) where
  watcher := (Service.troubled_watcher notice report left).trans leaves.watcher
  around := by
    rcases Service.troubled_around notice report left with ⟨journal, running, counted⟩
    rcases leaves.around with ⟨_, _, around⟩
    rw [counted, around]
    exact ⟨journal, running, rfl⟩
  sameSink := (Service.troubled_sink notice report left).trans leaves.sameSink
  running halted := (Service.troubled_running_iff notice report left).mpr (.inr (leaves.running halted))
  storage := (Service.troubled_storage notice report left).trans leaves.storage

end RoundLeaves

theorem RoundCourse.leaves {sink : Sink} {service : Service} {scene : Scene} {result : RoundEnd}
    (course : RoundCourse sink service result) (isScene : service.scene? = some scene) :
    RoundLeaves sink service scene (stateOf result) := by
  have handed : service.handedOver? =
      match poll scene with
      | .ok content _ => content
      | .error _ _ => none := by
    unfold Service.handedOver?
    rw [isScene]
    rfl
  -- a poll that hands over nothing leaves the storage alone
  have idle : service.handedOver? = none ->
      service.storage = Service.storageAfter sink service.handedOver? service.storage := by
    intro nothing
    rw [nothing]
    rfl
  cases course with
  | notReady absent => cases absent.symm.trans isScene
  | unchanged polledScene after same polled =>
      cases same.symm.trans isScene
      rw [polled] at handed
      exact .of_polled (congrArg stateOf polled) rfl ⟨_, rfl⟩ rfl (idle handed)
  | failed polledScene after failure same polled counted =>
      cases same.symm.trans isScene
      rw [polled] at handed
      apply RoundLeaves.troubled
      exact .of_polled (congrArg stateOf polled) rfl ⟨_, rfl⟩ rfl (idle handed)
  | cancelled polledScene after failure same polled cancels =>
      cases same.symm.trans isScene
      rw [polled] at handed
      exact .of_polled (congrArg stateOf polled) rfl ⟨_, rfl⟩ rfl (idle handed)
  | escaped polledScene after failure same polled uncounted uncancelled =>
      cases same.symm.trans isScene
      rw [polled] at handed
      exact .of_polled (congrArg stateOf polled) rfl ⟨_, rfl⟩ rfl (idle handed)
  | written polledScene after content size done same polled delivers =>
      cases same.symm.trans isScene
      rw [polled] at handed
      refine .of_polled (congrArg stateOf polled) rfl ⟨_, rfl⟩ rfl ?_
      rw [handed, Service.storageAfter, delivers]
      rfl
  | unwritten polledScene after content fault done same polled fails spoils =>
      cases same.symm.trans isScene
      rw [polled] at handed
      apply RoundLeaves.troubled
      refine .of_polled (congrArg stateOf polled) rfl ⟨_, rfl⟩ rfl ?_
      rw [handed, Service.storageAfter, fails]
      rfl
  | broken polledScene after content fault done same polled fails unrelated =>
      cases same.symm.trans isScene
      rw [polled] at handed
      refine .of_polled (congrArg stateOf polled) rfl ⟨_, rfl⟩ rfl ?_
      rw [handed, Service.storageAfter, fails]
      rfl

namespace Service

variable {sink : Sink} {service start : Service} {rounds : Nat} {before later : List Service}

/-! ## The end of the run -/

/-- With more rounds a run polls as it does with fewer, and perhaps goes on. -/
theorem polls_append (sink : Sink) (rounds more : Nat) (service : Service) :
    exists extra, service.polls sink (rounds + more) = service.polls sink rounds ++ extra := by
  induction rounds generalizing service with
  | zero => exact ⟨service.polls sink (0 + more), rfl⟩
  | succ rounds inductionHypothesis =>
      rw [Nat.succ_add, polls, polls]
      cases service.around.running with
      | false => exact ⟨[], rfl⟩
      | true =>
          rw [if_pos rfl, if_pos rfl]
          cases pollOnce sink service with
          | error failure next => exact ⟨[], rfl⟩
          | ok goesOn next =>
              cases goesOn with
              | false => exact ⟨[], rfl⟩
              | true =>
                  rcases inductionHypothesis next with ⟨extra, same⟩
                  exact ⟨extra, congrArg (service :: ·) same⟩

/-- No service polls after one whose round does not say that it goes on, or leaves a service that is not to go
on. -/
theorem eq_nil_of_final (turns : start.polls sink rounds = before ++ service :: later)
    (final : forall next, pollOnce sink service = .ok true next -> next.around.running = false) :
    later = [] := by
  rcases pollRounds_of_polls turns with ⟨left, _, _, rest, _⟩
  rw [rest]
  cases ended : pollOnce sink service with
  | error failure next => rfl
  | ok goesOn next =>
      cases goesOn with
      | false => rfl
      | true =>
          have first := head?_polls sink left next
          rw [if_neg fun both => Bool.false_ne_true ((final next ended).symm.trans both.1)] at first
          exact List.head?_eq_none_iff.mp first

/-- With more rounds no other services poll if the last one that did was to be the last. -/
theorem polls_of_final (turns : start.polls sink rounds = before ++ service :: later)
    (final : forall next, pollOnce sink service = .ok true next -> next.around.running = false)
    (more : Nat) : start.polls sink (rounds + more) = start.polls sink rounds := by
  rcases polls_append sink rounds more start with ⟨extra, longer⟩
  have alone := eq_nil_of_final turns final
  rw [turns, List.append_assoc, List.cons_append] at longer
  have nothing := eq_nil_of_final longer final
  rw [longer, turns, nothing, alone]

/-- A run ends with the round after which the service is not to go on. -/
theorem pollRounds_of_halted (turns : start.polls sink rounds = before ++ service :: later)
    (halts : (stateOf (pollOnce sink service)).around.running = false) :
    later = [] ∧ stateOf (pollRounds sink rounds start) = stateOf (pollOnce sink service) ∧
      forall more, pollRounds sink (rounds + more) start = pollRounds sink rounds start := by
  have final : forall next, pollOnce sink service = .ok true next -> next.around.running = false := by
    intro next ended
    rw [ended] at halts
    exact halts
  have nothing := eq_nil_of_final turns final
  refine ⟨nothing, ?_, fun more => pollRounds_congr (polls_of_final turns final more)⟩
  subst nothing
  exact stateOf_pollRounds_of_last turns

/-! ## Later runs -/

/-- The service after one run after another, each with a number of rounds. -/
def rerun (runs : List Nat) (service : Service) : Service :=
  runs.foldl (fun service rounds => stateOf (runFor rounds service)) service

namespace Rests

theorem refl {service : Service} (ready : service.IsReady) (heeded : service.Heeded) :
    service.Rests service := by
  rcases ready.watcher with ⟨watcher, isWatcher, prepared⟩
  rcases heeded with ⟨same, present, cancelled⟩
  cases isWatcher.symm.trans present
  have withheld := @Withheld.refl { watcher, around := service.around } cancelled
  exact rests_of_withheld isWatcher rfl rfl withheld isWatcher rfl

theorem trans {first second third : Service} (left : first.Rests second)
    (right : second.Rests third) : first.Rests third := by
  rcases left with ⟨scene, middle, isScene, isMiddle, withheld⟩
  rcases right with ⟨same, last, isSame, isLast, withheldLater⟩
  cases isMiddle.symm.trans isSame
  exact ⟨scene, last, isScene, isLast, withheld.trans withheldLater⟩

/-- A service that rests heeds the request to stop still. -/
theorem heeded {service later : Service} (rests : service.Rests later) : later.Heeded := by
  rcases rests with ⟨_, _, _, isScene, withheld⟩
  rcases Option.map_eq_some_iff.mp isScene with ⟨watcher, isWatcher, rfl⟩
  exact ⟨watcher, isWatcher, withheld.isCancelled⟩

/-- A service that rests can run if it could before. -/
theorem isReady {service later : Service} (rests : service.Rests later) (ready : service.IsReady)
    (sink : later.sink = service.sink) : later.IsReady := by
  rcases rests with ⟨_, _, isScene, isLater, withheld⟩
  rcases Option.map_eq_some_iff.mp isScene with ⟨watcher, isWatcher, rfl⟩
  rcases Option.map_eq_some_iff.mp isLater with ⟨left, isLeft, rfl⟩
  rcases ready.watcher with ⟨same, present, prepared⟩
  cases isWatcher.symm.trans present
  refine ⟨⟨left, isLeft, withheld.isPrepared.trans prepared⟩, ?_⟩
  rw [sink]
  exact ready.sink

end Rests

/-- A service on which a request to stop has left its mark rests, however often it is run. -/
theorem rests_rerun (runs : List Nat) {service : Service} (ready : service.IsReady)
    (heeded : service.Heeded) : service.Rests (service.rerun runs) := by
  induction runs generalizing service with
  | nil => exact .refl ready heeded
  | cons rounds runs inductionHypothesis =>
      rcases runFor_of_heeded ready heeded rounds with ⟨done, ended, rests, sink⟩
      have later := inductionHypothesis (rests.isReady ready sink) rests.heeded
      show service.Rests ((stateOf (runFor rounds service)).rerun runs)
      rw [ended]
      exact rests.trans later

/-- No round changes the sink. -/
theorem pollOnce_sink (sink : Sink) (service : Service) :
    (stateOf (pollOnce sink service)).sink = service.sink := by
  cases isScene : service.scene? with
  | none =>
      rw [pollOnce_of_no_scene isScene]
      rfl
  | some scene => exact ((round_course sink service).leaves isScene).sameSink

theorem sink_of_polls (turns : start.polls sink rounds = before ++ service :: later) :
    service.sink = start.sink := by
  induction before using List.reverseRecOn generalizing service later with
  | nil => rw [(eq_of_first_poll turns).1]
  | append_singleton earlier previous inductionHypothesis =>
      rw [List.append_assoc, List.singleton_append] at turns
      have kept := pollOnce_sink sink previous
      rw [(goesOn_of_polls turns).1] at kept
      exact kept.trans (inductionHypothesis turns)

/-- What a run leaves, apart from what it notes in the end. -/
theorem stateOf_runFor (ready : start.watcher.isSome = true) (isSink : start.sink = some sink)
    {left : Service} (same : stateOf (pollRounds sink rounds start.started) = left) :
    (stateOf (runFor rounds start)).watcher = left.watcher ∧
      (stateOf (runFor rounds start)).sink = left.sink ∧
      (stateOf (runFor rounds start)).storage = left.storage ∧
      (stateOf (runFor rounds start)).calls = left.calls := by
  rw [runFor_eq ready isSink]
  cases ended : pollRounds sink rounds start.started with
  | ok value after =>
      rw [ended] at same
      subst same
      exact ⟨rfl, rfl, rfl, finished_calls after⟩
  | error failure after =>
      rw [ended] at same
      subst same
      exact ⟨rfl, rfl, rfl, rfl⟩

/-- A run whose last poll was halted leaves a service that could run again, and that heeds the request to
stop. -/
theorem heeded_of_halted {scene : Scene} (ready : start.watcher.isSome = true)
    (isSink : start.sink = some sink)
    (turns : start.started.polls sink rounds = before ++ service :: later)
    (isScene : service.scene? = some scene) (halts : scene.Halts) :
    (stateOf (runFor rounds start)).IsReady ∧ (stateOf (runFor rounds start)).Heeded := by
  have leaves := (round_course sink service).leaves isScene
  rcases pollRounds_of_halted turns (leaves.running halts.running) with ⟨_, left, _⟩
  rcases stateOf_runFor ready isSink left with ⟨watcher, sameSink, _, _⟩
  have cancelled : (stateOf (runFor rounds start)).watcher = some (stateOf (poll scene)).watcher :=
    watcher.trans leaves.watcher
  have prepared : (stateOf (poll scene)).watcher.isPrepared = true :=
    Scene.run_isPrepared halts.prepared [.poll]
  have unchanged : service.sink = start.started.sink := sink_of_polls turns
  have kept : (stateOf (runFor rounds start)).sink = start.sink :=
    (sameSink.trans leaves.sameSink).trans unchanged
  refine ⟨⟨⟨_, cancelled, prepared⟩, ?_⟩, _, cancelled, halts.cancelled⟩
  rw [kept, isSink]
  rfl

/-- A request to stop reaches a service while its watcher awaits a reply.  Whatever the reply is, the poll in
progress is the last one of the run.  It sends no other request for metadata, and none for content either if
the request to stop came with the reply to the probe.  Content is handed to the sink at most once after that,
exactly if the request to stop came while content was awaited that was brought and could be opened.  The run
comes to its end whatever the number of its rounds, and the service does not go on unless a failure went
through.  From then on no run asks the store for anything, and none changes the token, the state of decoding or
the counters. -/
theorem graceful_stop {scene : Scene} (ready : start.watcher.isSome = true)
    (isSink : start.sink = some sink)
    (turns : start.started.polls sink rounds = before ++ service :: later)
    (isScene : service.scene? = some scene)
    (stopped : scene.StoppedInProbe ∨ scene.StoppedInRetrieval) :
    later = [] ∧
      (stateOf (runFor rounds start)).heads = service.heads + 1 ∧
      (scene.StoppedInProbe -> (stateOf (runFor rounds start)).gets = service.gets) ∧
      (scene.StoppedInRetrieval -> (stateOf (runFor rounds start)).gets = service.gets + 1) ∧
      (service.handedOver?.isSome = true ↔ scene.StoppedInRetrieval ∧
        exists body encoding, scene.Retrieves body encoding ∧
          (scene.unpacks encoding = true -> exists stream, Gzip.openBody body = .ok stream)) ∧
      (stateOf (runFor rounds start)).storage =
        storageAfter sink service.handedOver? service.storage ∧
      (forall more, runFor (rounds + more) start = runFor rounds start) ∧
      (forall done, runFor rounds start = .ok () done -> done.around.running = false) ∧
      forall runs, (stateOf (runFor rounds start)).Rests
        ((stateOf (runFor rounds start)).rerun runs) := by
  have halts := Scene.halts_of_stopped stopped
  have leaves := (round_course sink service).leaves isScene
  have calls := (round_course sink service).calls_eq isScene
  rcases pollRounds_of_halted turns (leaves.running halts.running) with ⟨nothing, left, settled⟩
  rcases stateOf_runFor ready isSink left with ⟨_, _, storage, sameCalls⟩
  have final := sameCalls.trans calls
  have begun : scene.calls = service.calls := by
    rcases Option.map_eq_some_iff.mp isScene with ⟨_, _, rfl⟩
    rfl
  have heads : (stateOf (runFor rounds start)).heads = (stateOf (poll scene)).heads :=
    congrArg (List.countP Call.isHead) final
  have gets : (stateOf (runFor rounds start)).gets = (stateOf (poll scene)).gets :=
    congrArg (List.countP Call.isGet) final
  have headsBefore : scene.heads = service.heads := congrArg (List.countP Call.isHead) begun
  have getsBefore : scene.gets = service.gets := congrArg (List.countP Call.isGet) begun
  refine ⟨nothing, ?_, fun inProbe => ?_, fun inRetrieval => ?_, ?_, ?_, fun more => ?_, ?_, fun runs => ?_⟩
  · rw [heads, halts.heads, headsBefore]
  · rw [gets, inProbe.halts.2, getsBefore]
  · rw [gets, inRetrieval.1, getsBefore]
  · rw [handedOver?_isSome_iff isScene, Scene.returns_content_iff]
    constructor
    · rintro ⟨body, encoding, retrieves, opens⟩
      refine ⟨?_, body, encoding, retrieves, opens⟩
      rcases stopped with inProbe | inRetrieval
      · have same := inProbe.halts.2
        have asked := retrieves.1
        omega
      · exact inRetrieval
    · exact And.right
  · rw [storage, leaves.storage]
  · rw [runFor_eq ready isSink, runFor_eq ready isSink, settled more]
  · intro done ended
    rcases (runFor_eq_ok_iff ready isSink).mp ended with ⟨after, _, rfl⟩
    rfl
  · rcases heeded_of_halted ready isSink turns isScene halts with ⟨readyAgain, heeded⟩
    exact rests_rerun runs readyAgain heeded

/-- A service that is asked to stop while the content of the first version is on its way. -/
def stoppedMidway : Service where
  settings := { bucket := "b", key := "k" }
  watcher := some
    { target := { bucket := "b", key := "k" }
      credentials := some (Credentials.resolve { bucket := "b", key := "k" } []) }
  sink := some .output
  around :=
    { stopper := .signal 15
      remote :=
        { heads :=
            [{ outcome := .ok { tag := some "first" } }, { outcome := .ok { tag := some "second" } }]
          gets :=
            [{ interruption := { stops := true }
               outcome := .ok { body := some (.ofBytes [1]) } }] } }

/-- The content is still delivered, the second version is not asked about, and neither is it in two more
runs. -/
theorem graceful_stop_midway :
    stoppedMidway.watcher.isSome = true ∧ stoppedMidway.sink = some .output ∧
      (stateOf (runFor 5 stoppedMidway)).heads = 1 ∧ (stateOf (runFor 5 stoppedMidway)).gets = 1 ∧
      stoppedMidway.started.handedOver?.isSome = true ∧
      (stateOf (runFor 5 stoppedMidway)).Rests
        ((stateOf (runFor 5 stoppedMidway)).rerun [3, 2]) := by
  have first : exists later,
      stoppedMidway.started.polls .output 5 = [] ++ stoppedMidway.started :: later := ⟨_, rfl⟩
  rcases first with ⟨later, turns⟩
  have isScene : exists scene, stoppedMidway.started.scene? = some scene ∧ scene.StoppedInRetrieval := by
    refine ⟨_, rfl, ?_, rfl⟩
    decide +kernel
  rcases isScene with ⟨scene, isScene, stopped⟩
  rcases graceful_stop rfl rfl turns isScene (.inr stopped) with
    ⟨_, heads, _, gets, _, _, _, _, rests⟩
  refine ⟨rfl, rfl, ?_, ?_, ?_, rests [3, 2]⟩
  · exact heads
  · exact gets stopped
  · decide +kernel

end Service

end ObjectWatch
