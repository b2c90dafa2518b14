import ObjectWatch.Proofs.Service.Round
import ObjectWatch.Proofs.Delivery.Outcome
import ObjectWatch.Proofs.Watcher.Retrieval

/-!
# What a broken transfer does to a run

A service counts a transfer that breaks and polls again.  It does so wherever the transfer breaks, with
one exception.  While content is opened to be unpacked, only the faults of content that is not gzip are
told as a failure of decoding.  A short body and a broken stream are not among them, although the sink
counts both as broken transfers.  Met while content is opened they go through the watcher and through
the service, and end the run.

So a broken transfer is survived exactly if it does not escape in this way.
-/

namespace ObjectWatch

/-- A transfer breaks: the body fails with a fault that a sink counts as a broken transfer, and it can be
closed. -/
structure Body.Breaks (body : Body) (fault : Fault) : Prop where
  live : body.IsLive
  fails : body.failure = some fault
  spoils : fault.spoilsStream = true
  closes : body.closeFault = none

/-- A fault escapes: it is met while content is opened, and it is none of content that is not gzip. -/
def Scene.Escapes (scene : Scene) (body : Body) (encoding : Option String) (fault : Fault) : Prop :=
  scene.unpacks encoding = true ∧
    (exists left, Gzip.openBody body = .error (fault, left)) ∧ fault.spoilsOpening = false

theorem Fault.report_of_spoilsStream {fault : Fault} (spoils : fault.spoilsStream = true) :
    Report.ofFault fault = .foreign fault := by
  cases fault <;> first | rfl | cases spoils

namespace Body.Breaks

variable {body : Body} {fault : Fault}

/-- A sink never receives all of a transfer that breaks, and what it tells about that counts as a broken
transfer as well. -/
theorem deliver_fails (breaks : body.Breaks fault) {unpacked : Bool} {content : Content}
    (presents : Content.Presents body unpacked content) {sink : Sink} (plain : sink.IsPlain)
    (storage : Storage) :
    exists told done, sink.deliver ⟨content, storage⟩ = .error told done ∧
      told.spoilsStream = true := by
  rcases presents.account breaks.live with ⟨bytes, stop, left, reads, bounded, ended, stops⟩
  have ends := sink.deliver_ends reads bounded storage
  have closes : content.terms.closeFault = none := by
    rw [presents.terms_eq]
    exact breaks.closes
  cases delivered : sink.deliver ⟨content, storage⟩ with
  | ok size done =>
      have finished := (ends.of_ok delivered).1
      have unfailing := ((ended bytes).mp ⟨finished, rfl⟩).1
      rw [breaks.fails] at unfailing
      cases unfailing
  | error told done =>
      refine ⟨told, done, rfl, ?_⟩
      rcases ends.of_error delivered with stopped | refuses | ⟨_, refused⟩
      · rcases stops told stopped with failed | spoils
        · rw [breaks.fails] at failed
          cases failed
          exact breaks.spoils
        · exact Fault.spoilsStream_of_spoilsOpening spoils
      · rw [closes] at refuses
        cases refuses
      · exact Fault.spoilsStream_of_spoilsOpening (refused.resolve_right fun zero => zero.1 plain)

/-- Opening a body of a broken transfer fails with the fault of the transfer, or as content that is not
gzip does. -/
theorem openBody_fails (breaks : body.Breaks fault) {cause : Fault} {left : Body}
    (failed : Gzip.openBody body = .error (cause, left)) :
    cause = fault ∨ cause.spoilsOpening = true := by
  rcases Gzip.Stream.openBody_allows failed with allowed | refuses
  · rcases allowed.cases_of_open breaks.live.opened with same | spoils
    · rw [breaks.fails] at same
      exact .inl (Option.some.inj same).symm
    · exact .inr spoils
  · rw [breaks.closes] at refuses
    cases refuses

end Body.Breaks

namespace Service

variable {service : Service} {sink : Sink} {scene : Scene} {body : Body} {encoding : Option String}
  {fault : Fault}

/-- A round tells and counts one failure and goes on.  Besides that it leaves the service as the poll
does, and something may have become of the storage. -/
def CountsFailure (sink : Sink) (service : Service) (scene : Scene) : Prop :=
  exists place notice report, (forall failures, (notice report failures).isFailure = true) ∧
    pollOnce sink service =
      .ok true ({ service.withScene (stateOf (Watcher.poll scene)) with
        storage := place }.troubled notice report)

/-- Content of a broken transfer that a poll returns is a failure of the sink. -/
theorem countsFailure_of_presents {content : Content} {after : Scene} {unpacked : Bool}
    (isScene : service.scene? = some scene) (polled : Watcher.poll scene = .ok (some content) after)
    (presents : Content.Presents body unpacked content) (breaks : body.Breaks fault)
    (plain : sink.IsPlain) : service.CountsFailure sink scene := by
  rcases breaks.deliver_fails presents plain service.storage with ⟨told, done, fails, spoils⟩
  refine ⟨done.place, .writingFailed, .ofFault told, fun _ => rfl, ?_⟩
  have published : publish sink content (service.withScene after) = _ := publish_of_error fails
  rw [spoils, if_pos rfl] at published
  rw [pollOnce_of_scene isScene, polled]
  dsimp only
  rw [seqRight_apply, published]
  rfl

/-- A round that retrieves a body of a broken transfer: the fault escapes, or a failure is counted. -/
theorem pollOnce_of_breaks (isScene : service.scene? = some scene)
    (retrieves : scene.Retrieves body encoding) (breaks : body.Breaks fault) (plain : sink.IsPlain) :
    (scene.Escapes body encoding fault ∧ exists left, pollOnce sink service =
        .error (.opening fault left) (service.withScene (stateOf (Watcher.poll scene)))) ∨
      (¬ scene.Escapes body encoding fault ∧ service.CountsFailure sink scene) := by
  rcases (poll_course scene).opening retrieves.1 retrieves.2 with ⟨metadata, _, opening⟩
  generalize polled : Watcher.poll scene = result at opening
  cases opening with
  | raw asIs =>
      rw [Scene.supplied_unpacks] at asIs
      refine .inr ⟨fun escapes => ?_, countsFailure_of_presents isScene polled .asServed breaks plain⟩
      have unpacks := escapes.1
      rw [asIs] at unpacks
      cases unpacks
  | unpacked stream unpacks opened =>
      refine .inr ⟨fun escapes => ?_,
        countsFailure_of_presents isScene polled (.unpacked opened) breaks plain⟩
      rcases escapes.2.1 with ⟨left, failed⟩
      rw [opened] at failed
      cases failed
  | broken cause left unpacks failed unrelated =>
      rw [Scene.supplied_unpacks] at unpacks
      have same : cause = fault := by
        rcases breaks.openBody_fails failed with same | spoils
        · exact same
        · rw [unrelated] at spoils
          cases spoils
      subst same
      refine .inl ⟨⟨unpacks, ⟨left, failed⟩, unrelated⟩, left, ?_⟩
      have report : (Failure.opening cause left).report = .foreign cause :=
        Fault.report_of_spoilsStream breaks.spoils
      rw [pollOnce_of_scene isScene, polled]
      dsimp only
      rw [handleFailure_apply, report]
      rfl
  | notGzip cause left unpacks failed spoils =>
      refine .inr ⟨fun escapes => ?_, service.storage, .pollFailed,
        (Failure.decode (scene.supplied metadata.token).watcher.target.key metadata.token cause
          left).report, fun _ => rfl, ?_⟩
      · rcases escapes with ⟨_, ⟨other, failedToo⟩, unrelated⟩
        rw [failed] at failedToo
        cases failedToo
        rw [unrelated] at spoils
        cases spoils
      · rw [pollOnce_of_scene isScene, polled]
        dsimp only
        rw [handleFailure_apply]
        rfl

/-- A broken transfer is survived unless its fault escapes.  In a run with either sink, a fault that
escapes ends the run at once and is not counted.  Every other broken transfer, wherever it breaks and
whether its content is unpacked or not, is told and counted as one failure, and the service polls again
unless the failures reach the limit or it was asked to stop, as long as the run has rounds left. -/
theorem broken_transfer_survived_unless_escapes {start : Service} (ready : start.watcher.isSome = true)
    (isSink : start.sink = some sink) (plain : sink.IsPlain) {rounds : Nat}
    {before later : List Service}
    (turns : start.started.polls sink rounds = before ++ service :: later)
    (isScene : service.scene? = some scene) (retrieves : scene.Retrieves body encoding)
    (breaks : body.Breaks fault) :
    (scene.Escapes body encoding fault ∧ later = [] ∧ exists left after,
        runFor rounds start = .error (.opening fault left) after ∧
        after.failures = service.failures ∧ after.outcomes = service.outcomes) ∨
      (¬ scene.Escapes body encoding fault ∧ exists next notice,
        pollOnce sink service = .ok true next ∧ next.failures = service.failures + 1 ∧
        next.outcomes = service.outcomes ++ [notice] ∧ notice.isFailure = true ∧
        (next.around.running = false ↔
          next.ReachesLimit ∨ (stateOf (Watcher.poll scene)).around.running = false) ∧
        later.head? =
          if next.around.running ∧ before.length + 1 < rounds then some next else none) := by
  rcases pollRounds_of_polls turns with ⟨left, same, running, rest, ended⟩
  have outcomes := withScene_outcomes isScene
  rcases @pollOnce_of_breaks service sink scene body encoding fault isScene retrieves breaks plain with
    ⟨escapes, unread, failed⟩ | ⟨survives, place, notice, report, tells, goesOn⟩
  · rw [failed] at rest
    refine .inl ⟨escapes, rest, unread, service.withScene (stateOf (Watcher.poll scene)), ?_, rfl,
      outcomes⟩
    rw [runFor_eq ready isSink, ended, pollRounds_succ, if_pos running, failed]
  · have told := fun failures => Notice.isOutcome_of_isFailure (tells failures)
    rw [goesOn] at rest
    refine .inr ⟨survives, _, notice report (service.failures + 1), goesOn, ?_, ?_, tells _, ?_, ?_⟩
    · exact troubled_failures _ _ _
    · rw [troubled_outcomes _ told]
      exact congrArg (· ++ _) outcomes
    · exact troubled_running_iff _ _ _
    · have roundsLeft : 0 < left ↔ before.length + 1 < rounds := by omega
      rw [rest]
      refine (head?_polls _ _ _).trans (ite_congr ?_ (fun _ => rfl) fun _ => rfl)
      exact propext (and_congr Iff.rfl roundsLeft)

/-- The fault of a stream that breaks. -/
def brokenStream : Fault := .brokenBody "connection broken"

/-- A gzip file of which four bytes come before the stream breaks. -/
def brokenHeader : Body := { rest := Gzip.letterMember.take 4, failure := some brokenStream }

/-- A store serves a gzip file, and the stream breaks in its header. -/
def beforeBreak (key : String) : Service where
  settings := { bucket := "b", key }
  watcher := some
    { target := { bucket := "b", key }
      credentials := some (Credentials.resolve { bucket := "b", key } []) }
  sink := some .output
  around :=
    { remote :=
        { heads := [{ outcome := .ok { tag := some "first" } }]
          gets := [{ outcome := .ok { body := some brokenHeader } }] } }

/-- The scene of the first poll of this service. -/
def breakScene (key : String) : Scene where
  watcher :=
    { target := { bucket := "b", key }
      credentials := some (Credentials.resolve { bucket := "b", key } []) }
  around := (beforeBreak key).started.around

/-- A stream that breaks in the header ends the run if the content is to be unpacked.  It is survived if
not. -/
theorem broken_transfer_survived_unless_escapes_in_header :
    brokenHeader.Breaks brokenStream ∧
      (exists left after, runFor 2 (beforeBreak "k.gz") = .error (.opening brokenStream left) after ∧
        after.failures = 0 ∧ after.outcomes = []) ∧
      exists next, pollOnce .output (beforeBreak "k").started = .ok true next ∧ next.failures = 1 := by
  have breaks : brokenHeader.Breaks brokenStream := ⟨⟨rfl, fun _ => nofun⟩, rfl, rfl, rfl⟩
  have opens : exists left, Gzip.openBody brokenHeader = .error (brokenStream, left) := ⟨_, rfl⟩
  have escapes : (breakScene "k.gz").Escapes brokenHeader none brokenStream :=
    ⟨by decide +kernel, opens, rfl⟩
  have asIs : ¬ (breakScene "k").Escapes brokenHeader none brokenStream := by
    have stays : (breakScene "k").unpacks none = false := by decide +kernel
    intro escapes
    rw [Scene.Escapes, stays] at escapes
    cases escapes.1
  have plain : Sink.output.IsPlain := trivial
  refine ⟨breaks, ?_, ?_⟩
  · have retrieves : (breakScene "k.gz").Retrieves brokenHeader none := ⟨by decide +kernel, rfl⟩
    have turns : (beforeBreak "k.gz").started.polls .output 2 =
        [] ++ (beforeBreak "k.gz").started :: _ := rfl
    rcases broken_transfer_survived_unless_escapes rfl rfl plain turns rfl retrieves breaks with
      ⟨_, _, left, after, ended, uncounted, untold⟩ | ⟨survives, _⟩
    · exact ⟨left, after, ended, uncounted, untold⟩
    · exact absurd escapes survives
  · have retrieves : (breakScene "k").Retrieves brokenHeader none := ⟨by decide +kernel, rfl⟩
    have turns : (beforeBreak "k").started.polls .output 2 =
        [] ++ (beforeBreak "k").started :: _ := rfl
    rcases broken_transfer_survived_unless_escapes rfl rfl plain turns rfl retrieves breaks with
      ⟨escapes, _⟩ | ⟨_, next, _, goesOn, counted, _⟩
    · exact absurd escapes asIs
    · exact ⟨next, goesOn, counted⟩

end Service
end ObjectWatch
