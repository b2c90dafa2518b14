import ObjectWatch.Proofs.Service.Completion
import ObjectWatch.Proofs.Service.Updates

/-!
# What goes through a service

A store that raises nothing but external faults makes a service fail with nothing else.  A fault of a request
is counted, and so is one of opening and of copying as far as it can be one of the content.  What goes
through the watcher and the service is an external fault that was met while content was opened, copied or
closed, a refusal of the sink, or that the watcher was not prepared.

So no error of the watcher's own family reaches the caller, although polls end with such errors all the time,
and neither does an interruption from the keyboard or a request to exit.
-/

namespace ObjectWatch

open Watcher

/-! ## External failures -/

theorem Fault.IsExternal.report_eq {fault : Fault} (external : fault.IsExternal) :
    Report.ofFault fault = .foreign fault := by
  cases fault <;> first | rfl | cases external.isForeign

/-- A failure is told as an external fault. -/
def Failure.IsExternal (failure : Failure) : Prop :=
  exists fault, fault.IsExternal ∧ failure.report = .foreign fault

theorem Fault.IsExternal.failure {fault : Fault} (external : fault.IsExternal) :
    (Failure.foreign fault).IsExternal :=
  ⟨fault, external, external.report_eq⟩

/-- A poll that fails is counted or was cancelled, or its failure is external. -/
def Failure.IsExpected (failure : Failure) : Prop :=
  failure.report.isCounted = true ∨ failure.report.isCancelled = true ∨ failure.IsExternal

namespace Remote

/-- Requests to the store fail with external faults only, and so do the bodies that it serves. -/
structure RepliesExternally (remote : Remote) : Prop where
  probes : forall reply fault, reply ∈ remote.heads -> reply.outcome = .error fault -> fault.IsExternal
  retrievals : forall reply fault, reply ∈ remote.gets -> reply.outcome = .error fault ->
    fault.IsExternal
  bodies : remote.Serves Body.RaisesExternal

/-- Clients, too, fail to be built with external faults only. -/
structure RaisesExternal (remote : Remote) : Prop extends remote.RepliesExternally where
  clients : forall fault, some fault ∈ remote.clients -> fault.IsExternal

/-- A store that has run out of replies raises an external fault as well. -/
theorem next_isExternal {α : Type} {replies : List (Reply α)}
    (external : forall reply fault, reply ∈ replies -> reply.outcome = .error fault -> fault.IsExternal)
    {fault : Fault} (fails : (next replies).1.outcome = .error fault) : fault.IsExternal := by
  cases replies with
  | nil =>
      cases fails
      exact ⟨rfl, rfl⟩
  | cons reply rest => exact external reply fault List.mem_cons_self fails

/-- A client that cannot be built. -/
theorem RaisesExternal.client {remote : Remote} (external : remote.RaisesExternal) {fault : Fault}
    (fails : remote.client.1 = some fault) : fault.IsExternal := by
  apply external.clients
  have first : remote.clients.head?.join = some fault := fails
  exact List.mem_of_mem_head? (Option.join_eq_some_iff.mp first)

end Remote

/-- What is left of the replies after some of them were given. -/
theorem Given.repliesExternally {before after : Scene} {heads : List (Reply Metadata)}
    {gets : List (Reply Delivery)} (given : Given before after heads gets)
    (external : before.around.remote.RepliesExternally) : after.around.remote.RepliesExternally where
  probes := by
    intro reply fault member
    apply external.probes
    rw [given.heads]
    exact List.mem_append_right _ member
  retrievals := by
    intro reply fault member
    apply external.retrievals
    rw [given.gets]
    exact List.mem_append_right _ member
  bodies := by
    intro body encoding member
    apply external.bodies body encoding
    rw [given.gets, downloadsOf_append]
    exact List.mem_append_right _ member

namespace Scene

variable {scene : Scene}

theorem fetched_isExternal (external : scene.around.remote.RepliesExternally) {fault : Fault}
    (fails : scene.fetched = .error fault) : fault.IsExternal := by
  unfold fetched at fails
  cases outcome : scene.getReply.outcome with
  | error cause =>
      rw [outcome] at fails
      cases fails
      exact Remote.next_isExternal external.retrievals outcome
  | ok delivery =>
      rw [outcome] at fails
      -- only a delivery without a body fails
      cases brought : delivery.body with
      | none =>
          unfold Delivery.content at fails
          simp only [Except.bind, brought] at fails
          cases fails
          exact ⟨rfl, rfl⟩
      | some body =>
          unfold Delivery.content at fails
          simp only [Except.bind, brought] at fails
          cases fails

end Scene

/-! ## Polls -/

theorem OpeningCourse.isExpected {scene after : Scene} {token : String} {body : Body}
    {encoding : Option String} {failure : Failure}
    (course : OpeningCourse scene token body encoding (.error failure after))
    (external : body.RaisesExternal) : failure.IsExpected := by
  cases course with
  | broken cause left unpacks failed unrelated =>
      have met : cause.IsExternal := by
        rcases Gzip.Stream.openBody_allows failed with allowed | refuses
        · exact allowed.admits external
        · exact external.closing cause refuses
      exact .inr (.inr ⟨cause, met, met.report_eq⟩)
  | notGzip cause left unpacks failed spoils => exact .inl rfl

theorem RetrievalCourse.isExpected {scene after : Scene} {token : String} {failure : Failure}
    (course : RetrievalCourse scene token (.error failure after))
    (external : scene.around.remote.RepliesExternally) : failure.IsExpected := by
  cases course with
  | stopped cancelled => exact .inr (.inl rfl)
  | aborted cause free outcome aborts =>
      cases (Scene.fetched_isExternal external outcome).isOrdinary.symm.trans aborts
  | failed cause free outcome ordinary => exact .inl rfl
  | delivered body encoding result free outcome course =>
      exact course.isExpected (external.bodies.next (congrArg Except.toOption outcome))

theorem ProbeCourse.isExpected {scene after : Scene} {failure : Failure}
    (course : ProbeCourse scene (.error failure after))
    (external : scene.around.remote.RepliesExternally) : failure.IsExpected := by
  cases course with
  | aborted cause outcome aborts =>
      cases (Remote.next_isExternal external.probes outcome).isOrdinary.symm.trans aborts
  | failed cause outcome ordinary => exact .inl rfl
  | changed metadata result outcome new course =>
      apply course.isExpected
      exact scene.given_probed.repliesExternally external

/-- A poll fails with what is counted, because it was cancelled, or with an external fault. -/
theorem Course.isExpected {scene after : Scene} {failure : Failure}
    (course : Course scene (.error failure after))
    (external : scene.around.remote.RepliesExternally) : failure.IsExpected := by
  cases course with
  | notPrepared unprepared => exact .inr (.inr ⟨_, ⟨rfl, rfl⟩, rfl⟩)
  | waitRefused prepared stranded => exact .inr (.inr ⟨_, ⟨rfl, rfl⟩, rfl⟩)
  | stoppedWaiting prepared polled paced cancelled => exact .inr (.inl rfl)
  | stoppedBefore prepared first cancelled => exact .inr (.inl rfl)
  | probing result prepared free course =>
      apply course.isExpected
      rw [scene.begun_remote]
      exact external

/-! ## Deliveries -/

/-- A sink that does not deliver content of a body tells an external fault: one of the body, or one of its
own. -/
theorem Sink.deliver_isExternal {sink : Sink} {body : Body} {unpacked : Bool} {content : Content}
    {storage : Storage} {fault : Fault} {done : Transfer Storage}
    (presents : Content.Presents body unpacked content) (external : body.RaisesExternal)
    (fails : sink.deliver ⟨content, storage⟩ = .error fault done) : fault.IsExternal := by
  rcases presents.reads with ⟨bytes, stop, left, reads, bounded⟩
  have terms : content.terms.RaisesExternal := by
    rw [presents.terms_eq]
    exact ⟨external.reading, external.closing⟩
  rcases (sink.deliver_ends reads bounded storage).of_error fails with stopped | refuses | ⟨_, spoils | zero⟩
  · exact reads.admits stopped terms
  · exact terms.closing fault refuses
  · exact Fault.isExternal_of_spoilsOpening spoils
  · rcases zero with ⟨_, rfl⟩
    exact ⟨rfl, rfl⟩

/-! ## Rounds and runs -/

namespace Service

/-- A round that breaks off lets an external failure through, and any round leaves a store that raises
nothing but external faults. -/
theorem pollOnce_external (sink : Sink) {service : Service}
    (external : service.around.remote.RepliesExternally) :
    Ends (pollOnce sink service) (fun _ next => next.around.remote.RepliesExternally)
      (fun failure _ => failure.IsExternal) := by
  cases isScene : service.scene? with
  | none =>
      rw [pollOnce_of_no_scene isScene]
      exact ⟨_, ⟨rfl, rfl⟩, rfl⟩
  | some scene =>
      have remote : scene.around.remote.RepliesExternally := by
        rcases Option.map_eq_some_iff.mp isScene with ⟨watcher, _, rfl⟩
        exact external
      have course := round_course sink service
      have leaves := course.leaves isScene
      cases ended : pollOnce sink service with
      | ok goesOn next =>
          rw [ended] at leaves
          rcases (poll_course scene).account with ⟨heads, gets, given, _⟩
          rcases leaves.around with ⟨journal, running, around⟩
          have left : next.around = _ := around
          show next.around.remote.RepliesExternally
          rw [left]
          exact given.repliesExternally remote
      | error failure next =>
          rw [ended] at course
          cases course with
          | notReady absent => cases absent.symm.trans isScene
          | escaped other after told same polled uncounted uncancelled =>
              cases isScene.symm.trans same
              have expected := poll_course scene
              rw [polled] at expected
              rcases expected.isExpected remote with counted | cancels | outside
              · cases uncounted.symm.trans counted
              · cases uncancelled.symm.trans cancels
              · exact outside
          | broken other after content fault done same polled fails unrelated =>
              cases isScene.symm.trans same
              rcases Scene.returns_of_poll polled with ⟨body, unpacked, returns, presents, _⟩
              rcases returns.retrieves with ⟨encoding, ⟨_, brings⟩, _⟩
              exact (Sink.deliver_isExternal presents (remote.bodies.next brings) fails).failure

/-- What goes through a run is external. -/
theorem pollRounds_external (sink : Sink) (rounds : Nat) {service : Service}
    (external : service.around.remote.RepliesExternally) :
    Ends (pollRounds sink rounds service) (fun _ _ => True) (fun failure _ => failure.IsExternal) := by
  induction rounds generalizing service with
  | zero => exact True.intro
  | succ rounds inductionHypothesis =>
      rw [pollRounds_succ]
      split
      · have step := pollOnce_external sink external
        cases ended : pollOnce sink service with
        | error failure next => exact step.of_error ended
        | ok goesOn next =>
            cases goesOn with
            | true => exact inductionHypothesis (step.of_ok ended)
            | false => exact True.intro
      · exact True.intro

theorem runFor_external {service : Service} (external : service.around.remote.RepliesExternally)
    {rounds : Nat} {failure : Failure} {left : Service}
    (broken : runFor rounds service = .error failure left) : failure.IsExternal := by
  rcases service.equipped_or_notReady with ⟨ready, sink, isSink⟩ | unready
  · have started : service.started.around.remote.RepliesExternally := external
    rw [runFor_eq_error_iff ready isSink] at broken
    exact (pollRounds_external sink rounds started).of_error broken
  · rw [unready] at broken
    cases broken
    exact ⟨_, ⟨rfl, rfl⟩, rfl⟩

end Service
end ObjectWatch
