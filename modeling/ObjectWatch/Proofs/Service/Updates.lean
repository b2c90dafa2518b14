import Mathlib.Data.List.Chain
import ObjectWatch.Proofs.Service.Round
import ObjectWatch.Proofs.Delivery.Outcome
import ObjectWatch.Proofs.Watcher.Retrieval

/-!
# What a run tells about updates

A service tells an update with its size and with the token that the watcher remembers by then.  That
token is read after the content was delivered, so it could have moved on since the content was asked for.
It has not: nothing in a round changes it after the probe.

So the updates that a run tells are those polls, one by one and in order, whose content was read to its
end and closed, and each comes with the token of its own poll.  `Tells` is this correspondence.  It goes
along the polls of the run and says nothing about how the service keeps its records.

A token that is remembered is not asked for again, so polls that learn no other token tell one update at
most.
-/

namespace ObjectWatch

/-- The size and the token of an update that a notice tells. -/
def Notice.update? : Notice -> Option (Nat × String)
  | .written size token => some (size, token)
  | _ => none

theorem Notice.update?_of_isFailure {notice : Notice} (tells : notice.isFailure = true) :
    notice.update? = none := by
  cases notice <;> first | rfl | cases tells

/-! ## The token of a poll -/

namespace Course

variable {scene : Scene} {result : PollEnd}

/-- After a poll the watcher remembers the token that its probe was told.  A poll without a probe, or with
one that failed, leaves the token. -/
theorem token_cases (course : Course scene result) :
    (stateOf result).watcher.progress.token = scene.watcher.progress.token ∨
      exists metadata, (stateOf result).heads = scene.heads + 1 ∧
        scene.headReply.outcome = .ok metadata ∧
        (stateOf result).watcher.progress.token = metadata.token := by
  cases course with
  | notPrepared unprepared => exact .inl rfl
  | waitRefused prepared stranded => exact .inl rfl
  | stoppedWaiting prepared polled paced cancelled =>
      refine .inl ?_
      show scene.waited.watcher.progress.token = _
      rw [scene.waited_watcher]
  | stoppedBefore prepared first cancelled =>
      refine .inl ?_
      show scene.begun.watcher.progress.token = _
      rw [scene.begun_watcher]
      rfl
  | probing result prepared free course =>
      have heads := course.heads_eq
      have token := course.token_eq
      rw [scene.begun_heads] at heads
      rw [scene.begun_headReply] at token
      cases outcome : scene.headReply.outcome with
      | ok metadata =>
          rw [outcome] at token
          exact .inr ⟨metadata, heads, rfl, token⟩
      | error cause =>
          rw [outcome] at token
          refine .inl (token.trans ?_)
          rw [scene.begun_watcher]
          rfl

end Course

namespace Scene

/-- A poll retrieves a body for the token that its probe told, and returns its content, unpacked or not. -/
structure Returns (scene : Scene) (body : Body) (unpacked : Bool) (token : String)
    (content : Content) : Prop where
  retrieves : exists encoding, scene.Retrieves body encoding ∧ scene.unpacks encoding = unpacked
  told : exists metadata, scene.headReply.outcome = .ok metadata ∧ metadata.token = token
  polled : exists after, Watcher.poll scene = .ok (some content) after

variable {scene after : Scene} {content : Content} {body : Body} {unpacked : Bool} {token : String}

/-- Content that a poll returns was retrieved for a new token, which the watcher remembers then. -/
theorem returns_of_poll (polled : Watcher.poll scene = .ok (some content) after) :
    exists body unpacked, scene.Returns body unpacked after.watcher.progress.token content ∧
      Content.Presents body unpacked content ∧
      after.watcher.progress.token ≠ scene.watcher.progress.token := by
  rcases Scene.retrieves_of_poll polled with ⟨metadata, body, encoding, outcome, new, retrieves, opening⟩
  have token : after.watcher.progress.token = _ := opening.token_eq
  rw [Scene.supplied_token] at token
  rw [token]
  refine ⟨body, _, ⟨⟨encoding, retrieves, rfl⟩, ⟨metadata, outcome, rfl⟩, after, polled⟩, ?_, new⟩
  rw [← scene.supplied_unpacks metadata.token]
  cases opening with
  | raw asIs => exact asIs ▸ .asServed
  | unpacked stream unpacks opened => exact unpacks ▸ .unpacked opened

namespace Returns

/-- The content is what the poll returned, and the token is the one that is remembered then. -/
theorem of_poll (returns : scene.Returns body unpacked token content) {other : Content}
    (polled : Watcher.poll scene = .ok (some other) after) :
    other = content ∧ after.watcher.progress.token = token ∧ Content.Presents body unpacked content ∧
      token ≠ scene.watcher.progress.token := by
  rcases returns with ⟨⟨encoding, ⟨_, brings⟩, rfl⟩, ⟨metadata, outcome, rfl⟩, last, returned⟩
  rw [polled] at returned
  cases returned
  rcases returns_of_poll polled with ⟨_, _, ⟨⟨_, ⟨_, same⟩, rfl⟩, ⟨_, again, token⟩, _⟩, presents, new⟩
  rw [brings] at same
  rw [outcome] at again
  cases same
  cases again
  rw [token]
  exact ⟨rfl, rfl, presents, token ▸ new⟩

theorem presents (returns : scene.Returns body unpacked token content) :
    Content.Presents body unpacked content := by
  rcases returns.polled with ⟨after, polled⟩
  exact (returns.of_poll polled).2.2.1

theorem new (returns : scene.Returns body unpacked token content) :
    token ≠ scene.watcher.progress.token := by
  rcases returns.polled with ⟨after, polled⟩
  exact (returns.of_poll polled).2.2.2

theorem token_eq (returns : scene.Returns body unpacked token content) :
    (stateOf (Watcher.poll scene)).watcher.progress.token = token := by
  rcases returns.polled with ⟨after, polled⟩
  rw [polled]
  exact (returns.of_poll polled).2.1

/-- A poll that returns content has sent a probe. -/
theorem heads_eq (returns : scene.Returns body unpacked token content) :
    (stateOf (Watcher.poll scene)).heads = scene.heads + 1 := by
  rcases returns.retrieves with ⟨encoding, ⟨asked, _⟩, _⟩
  rcases (poll_course scene).requests with ⟨heads, _, _⟩ | ⟨heads, _, _⟩ | ⟨_, gets⟩
  · exact heads
  · exact heads
  · omega

end Returns
end Scene

namespace Service

/-- The updates that were told so far. -/
def updates (service : Service) : List (Nat × String) := service.outcomes.filterMap Notice.update?

/-- The token that the watcher of the service remembers. -/
def token? (service : Service) : Option String :=
  service.scene?.map fun scene => scene.watcher.progress.token

/-- The poll of a service sends a probe, and the probe succeeds and tells a token. -/
def Learns (service : Service) (token : String) : Prop :=
  exists scene metadata, service.scene? = some scene ∧
    (stateOf (Watcher.poll scene)).heads = scene.heads + 1 ∧
    scene.headReply.outcome = .ok metadata ∧ metadata.token = token

/-- The poll of a service returns the content of a body, the sink reads it to its end and closes it, and
standard output, if the sink is that, takes its bytes. -/
def Delivers (sink : Sink) (service : Service) (body : Body) (unpacked : Bool) (token : String)
    (bytes : Bytes) : Prop :=
  exists scene content, service.scene? = some scene ∧ scene.Returns body unpacked token content ∧
    content.Received bytes ∧ sink.WouldTake service.storage bytes

/-- The updates that correspond to polls: one for every poll that delivers a body, with the number of its
bytes and the token that led to it, and none for any other poll. -/
inductive Tells (sink : Sink) : List Service -> List (Nat × String) -> Prop where
  | nothing : Tells sink [] []
  | delivered {service : Service} {polls : List Service} {updates : List (Nat × String)} {body : Body}
      {unpacked : Bool} {token : String} {bytes : Bytes}
      (delivers : service.Delivers sink body unpacked token bytes) (later : Tells sink polls updates) :
      Tells sink (service :: polls) ((bytes.length, token) :: updates)
  | undelivered {service : Service} {polls : List Service} {updates : List (Nat × String)}
      (fails : forall body unpacked token bytes, ¬ service.Delivers sink body unpacked token bytes)
      (later : Tells sink polls updates) : Tells sink (service :: polls) updates

variable {sink : Sink} {service next : Service} {body : Body} {unpacked : Bool} {token : String}
  {bytes : Bytes}

/-- What is delivered is what the body holds, and the body neither failed nor refused to be closed. -/
theorem Delivers.holds (delivers : service.Delivers sink body unpacked token bytes)
    (live : body.IsLive) :
    body.failure = none ∧ body.closeFault = none ∧ body.holds unpacked = some bytes := by
  rcases delivers with ⟨scene, content, _, returns, received, _⟩
  exact (returns.presents.received_iff live bytes).mp received

/-! ## The parts of a round -/

theorem noted_updates (notice : Notice) (other : notice.isOutcome = false) :
    (service.noted notice).updates = service.updates := by
  unfold updates
  rw [noted_outcomes, other]
  exact congrArg _ (List.append_nil _)

/-- A failure is no update. -/
theorem troubled_updates {notice : Report -> Nat -> Notice} {report : Report} (service : Service)
    (tells : forall failures, (notice report failures).isFailure = true) :
    (service.troubled notice report).updates = service.updates := by
  unfold updates
  rw [troubled_outcomes service fun failures => Notice.isOutcome_of_isFailure (tells failures),
    List.filterMap_append, List.filterMap_cons_none (Notice.update?_of_isFailure (tells _))]
  exact List.append_nil _

theorem delivered_updates (place : Storage) (size : Nat) (token : String) (service : Service) :
    (service.delivered place size token).updates = service.updates ++ [(size, token)] := by
  unfold updates delivered
  rw [noted_outcomes, List.filterMap_append]
  rfl

theorem withScene_updates {scene : Scene} (isScene : service.scene? = some scene) {result : PollEnd}
    (polled : Watcher.poll scene = result) :
    (service.withScene (stateOf result)).updates = service.updates := by
  rw [← polled]
  exact congrArg (List.filterMap Notice.update?) (withScene_outcomes isScene)

/-! ## One round -/

/-- A poll without content delivers nothing. -/
theorem not_delivers_of_contentless {scene : Scene} (isScene : service.scene? = some scene)
    {result : PollEnd} (polled : Watcher.poll scene = result)
    (contentless : forall content after, result ≠ .ok (some content) after) :
    ¬ service.Delivers sink body unpacked token bytes := by
  rintro ⟨other, content, same, returns, _, _⟩
  rw [isScene] at same
  cases same
  rcases returns.polled with ⟨after, returned⟩
  exact contentless content after (polled.symm.trans returned)

/-- What becomes of the content of a poll, with a usable sink. -/
theorem deliver_content {scene after : Scene} {content : Content}
    (usable : sink.IsUsable service.storage) (isScene : service.scene? = some scene)
    (polled : Watcher.poll scene = .ok (some content) after) :
    Ends (sink.deliver ⟨content, service.storage⟩)
      (fun size _ => exists body unpacked bytes, size = bytes.length ∧
        service.Delivers sink body unpacked after.watcher.progress.token bytes)
      (fun _ _ => forall body unpacked token bytes,
        ¬ service.Delivers sink body unpacked token bytes) := by
  rcases Scene.returns_of_poll polled with ⟨body, unpacked, returns, presents, _⟩
  rcases presents.reads with ⟨bytes, stop, left, reads, bounded⟩
  refine (Sink.deliver_received usable reads bounded).mono ?_ ?_
  · rintro size _ ⟨received, readOn, same⟩
    exact ⟨body, unpacked, bytes, same, scene, content, isScene, returns, received, readOn⟩
  · rintro _ _ undelivered body unpacked token bytes ⟨other, content', same, returns', received⟩
    rw [isScene] at same
    cases same
    rcases returns'.of_poll polled with ⟨rfl, _⟩
    exact undelivered bytes received

/-- A round tells an update exactly if it delivers a body. -/
theorem pollOnce_updates (usable : sink.IsUsable service.storage) :
    (exists body unpacked token bytes, service.Delivers sink body unpacked token bytes ∧
        (stateOf (pollOnce sink service)).updates = service.updates ++ [(bytes.length, token)]) ∨
      (forall body unpacked token bytes, ¬ service.Delivers sink body unpacked token bytes) ∧
        (stateOf (pollOnce sink service)).updates = service.updates := by
  have course := round_course sink service
  generalize pollOnce sink service = result at course
  cases course with
  | notReady absent =>
      refine .inr ⟨?_, rfl⟩
      rintro body unpacked token bytes ⟨scene, _, isScene, _⟩
      rw [absent] at isScene
      cases isScene
  | unchanged scene after isScene polled =>
      have unmoved : (service.withScene after).updates = service.updates :=
        withScene_updates isScene polled
      exact .inr ⟨fun _ _ _ _ => not_delivers_of_contentless isScene polled fun _ _ => nofun, unmoved⟩
  | failed scene after failure isScene polled counted =>
      have unmoved : (service.withScene after).updates = service.updates :=
        withScene_updates isScene polled
      exact .inr ⟨fun _ _ _ _ => not_delivers_of_contentless isScene polled fun _ _ => nofun,
        (troubled_updates _ fun _ => rfl).trans unmoved⟩
  | cancelled scene after failure isScene polled cancels =>
      have unmoved : (service.withScene after).updates = service.updates :=
        withScene_updates isScene polled
      exact .inr ⟨fun _ _ _ _ => not_delivers_of_contentless isScene polled fun _ _ => nofun,
        (noted_updates _ rfl).trans unmoved⟩
  | escaped scene after failure isScene polled uncounted uncancelled =>
      have unmoved : (service.withScene after).updates = service.updates :=
        withScene_updates isScene polled
      exact .inr ⟨fun _ _ _ _ => not_delivers_of_contentless isScene polled fun _ _ => nofun, unmoved⟩
  | written scene after content size done isScene polled delivers =>
      have unmoved : (service.withScene after).updates = service.updates :=
        withScene_updates isScene polled
      rcases (deliver_content usable isScene polled).of_ok delivers with
        ⟨body, unpacked, bytes, rfl, told⟩
      refine .inl ⟨body, unpacked, after.watcher.progress.token, bytes, told, ?_⟩
      rw [stateOf, delivered_updates, unmoved]
  | unwritten scene after content fault done isScene polled fails spoils =>
      have unmoved : (service.withScene after).updates = service.updates :=
        withScene_updates isScene polled
      exact .inr ⟨(deliver_content usable isScene polled).of_error fails,
        (troubled_updates _ fun _ => rfl).trans unmoved⟩
  | broken scene after content fault done isScene polled fails unrelated =>
      have unmoved : (service.withScene after).updates = service.updates :=
        withScene_updates isScene polled
      exact .inr ⟨(deliver_content usable isScene polled).of_error fails, unmoved⟩

/-- However a round ends, it leaves a usable sink usable. -/
theorem pollOnce_isUsable (usable : sink.IsUsable service.storage) :
    sink.IsUsable (stateOf (pollOnce sink service)).storage := by
  have course := round_course sink service
  generalize pollOnce sink service = result at course
  cases course with
  | notReady absent => exact usable
  | unchanged scene after isScene polled => exact usable
  | failed scene after failure isScene polled counted =>
      show sink.IsUsable (troubled _ _ _).storage
      rw [troubled_storage]
      exact usable
  | cancelled scene after failure isScene polled cancels => exact usable
  | escaped scene after failure isScene polled uncounted uncancelled => exact usable
  | written scene after content size done isScene polled delivers =>
      have after := usable.deliver content
      rw [delivers] at after
      exact after
  | unwritten scene after content fault done isScene polled fails spoils =>
      have after := usable.deliver content
      rw [fails] at after
      show sink.IsUsable (troubled _ _ _).storage
      rw [troubled_storage]
      exact after
  | broken scene after content fault done isScene polled fails unrelated =>
      have after := usable.deliver content
      rw [fails] at after
      exact after

/-- A round after which the service goes on leaves the watcher as the poll does. -/
theorem scene?_of_goesOn (goesOn : pollOnce sink service = .ok true next) :
    exists scene, service.scene? = some scene ∧
      next.token? = some (stateOf (Watcher.poll scene)).watcher.progress.token := by
  have course := round_course sink service
  rw [goesOn] at course
  generalize ended : EStateM.Result.ok true next = result at course
  cases course with
  | notReady absent => cases ended
  | unchanged scene after isScene polled =>
      cases ended
      exact ⟨scene, isScene, by rw [polled]; rfl⟩
  | failed scene after failure isScene polled counted =>
      cases ended
      refine ⟨scene, isScene, ?_⟩
      rw [polled, token?, scene?, troubled_watcher]
      rfl
  | cancelled scene after failure isScene polled cancels => cases ended
  | escaped scene after failure isScene polled uncounted uncancelled => cases ended
  | written scene after content size done isScene polled delivers =>
      cases ended
      exact ⟨scene, isScene, by rw [polled]; rfl⟩
  | unwritten scene after content fault done isScene polled fails spoils =>
      cases ended
      refine ⟨scene, isScene, ?_⟩
      rw [polled, token?, scene?, troubled_watcher]
      rfl
  | broken scene after content fault done isScene polled fails unrelated => cases ended

/-! ## The updates of a run -/

/-- The updates of polls are those of the first polls and then those of the others. -/
theorem Tells.split {first last : List Service} {told : List (Nat × String)}
    (tells : Tells sink (first ++ last) told) :
    exists early late, told = early ++ late ∧ Tells sink first early ∧ Tells sink last late := by
  induction first generalizing told with
  | nil => exact ⟨[], told, rfl, .nothing, tells⟩
  | cons service polls inductionHypothesis =>
      cases tells with
      | delivered delivers later =>
          rcases inductionHypothesis later with ⟨early, late, rfl, before, after⟩
          exact ⟨_ :: early, late, rfl, .delivered delivers before, after⟩
      | undelivered fails later =>
          rcases inductionHypothesis later with ⟨early, late, rfl, before, after⟩
          exact ⟨early, late, rfl, .undelivered fails before, after⟩

/-- What a round tells comes before what the later rounds tell. -/
theorem tells_cons (usable : sink.IsUsable service.storage) {polls : List Service}
    {told final : List (Nat × String)} (later : Tells sink polls told)
    (same : final = (stateOf (pollOnce sink service)).updates ++ told) :
    exists whole, Tells sink (service :: polls) whole ∧ final = service.updates ++ whole := by
  rcases pollOnce_updates usable with ⟨body, unpacked, token, bytes, delivers, one⟩ | ⟨fails, none⟩
  · refine ⟨_, .delivered delivers later, ?_⟩
    rw [same, one, List.append_assoc]
    rfl
  · exact ⟨told, .undelivered fails later, by rw [same, none]⟩

/-- The rounds of a run tell the updates of its polls. -/
theorem pollRounds_updates (rounds : Nat) (usable : sink.IsUsable service.storage) :
    exists told, Tells sink (service.polls sink rounds) told ∧
      (stateOf (pollRounds sink rounds service)).updates = service.updates ++ told := by
  induction rounds generalizing service with
  | zero => exact ⟨[], .nothing, (List.append_nil _).symm⟩
  | succ rounds inductionHypothesis =>
      have still := pollOnce_isUsable usable
      rw [pollRounds_succ, polls]
      cases running : service.around.running with
      | false => exact ⟨[], .nothing, (List.append_nil _).symm⟩
      | true =>
          rw [if_pos rfl, if_pos rfl]
          cases ended : pollOnce sink service with
          | error failure next =>
              refine tells_cons usable .nothing ?_
              rw [ended]
              exact (List.append_nil _).symm
          | ok goesOn next =>
              cases goesOn with
              | false =>
                  refine tells_cons usable .nothing ?_
                  rw [ended]
                  exact (List.append_nil _).symm
              | true =>
                  rw [ended] at still
                  rcases inductionHypothesis still with ⟨told, later, same⟩
                  refine tells_cons usable later ?_
                  rw [ended]
                  exact same

/-! ## Polls that learn one token -/

/-- The token of a delivery was learned by the poll, it was new, and it is remembered then. -/
theorem Delivers.token_eq (delivers : service.Delivers sink body unpacked token bytes) :
    service.Learns token ∧ service.token? ≠ some token ∧
      (pollOnce sink service = .ok true next -> next.token? = some token) := by
  rcases delivers with ⟨scene, content, isScene, returns, _, _⟩
  rcases returns.told with ⟨metadata, outcome, same⟩
  refine ⟨⟨scene, metadata, isScene, returns.heads_eq, outcome, same⟩, ?_, fun goesOn => ?_⟩
  · rw [token?, isScene]
    exact fun known => returns.new (Option.some.inj known).symm
  · rcases scene?_of_goesOn goesOn with ⟨other, isOther, remembered⟩
    rw [isScene] at isOther
    cases isOther
    rw [remembered, returns.token_eq]

/-- A token that is remembered stays so while no other one is learned. -/
theorem token?_of_goesOn (goesOn : pollOnce sink service = .ok true next)
    (known : service.token? = some token) (only : forall other, service.Learns other -> other = token) :
    next.token? = some token := by
  rcases scene?_of_goesOn goesOn with ⟨scene, isScene, remembered⟩
  rw [remembered]
  rw [token?, isScene] at known
  rcases (poll_course scene).token_cases with same | ⟨metadata, heads, outcome, same⟩
  · rw [same]
    exact known
  · rw [same, only metadata.token ⟨scene, metadata, isScene, heads, outcome, rfl⟩]

/-- The polls of a run follow one another as the rounds go on. -/
theorem polls_isChain (sink : Sink) (rounds : Nat) (service : Service) :
    (service.polls sink rounds).IsChain fun service next => pollOnce sink service = .ok true next := by
  induction rounds generalizing service with
  | zero => exact .nil
  | succ rounds inductionHypothesis =>
      rw [polls]
      cases running : service.around.running with
      | false => exact .nil
      | true =>
          rw [if_pos rfl]
          cases ended : pollOnce sink service with
          | error failure next => exact .singleton service
          | ok goesOn next =>
              cases goesOn with
              | false => exact .singleton service
              | true =>
                  refine List.isChain_cons.mpr ⟨fun first isFirst => ?_, inductionHypothesis next⟩
                  rw [head?_polls] at isFirst
                  split at isFirst
                  · cases isFirst
                    exact ended
                  · cases isFirst

/-- Polls that learn only a token that is remembered already tell nothing. -/
theorem Tells.eq_nil_of_known {polls : List Service} {told : List (Nat × String)}
    (tells : Tells sink polls told)
    (chain : polls.IsChain fun service next => pollOnce sink service = .ok true next)
    (only : forall service, service ∈ polls -> forall other, service.Learns other -> other = token)
    (known : forall first, first ∈ polls.head? -> first.token? = some token) : told = [] := by
  induction tells with
  | nothing => rfl
  | @delivered service polls updates body unpacked other bytes delivers later inductionHypothesis =>
      rcases @Delivers.token_eq sink service service body unpacked other bytes delivers with ⟨learns, new, _⟩
      have same := only service List.mem_cons_self other learns
      exact absurd (known service rfl) (same ▸ new)
  | @undelivered service polls updates fails later inductionHypothesis =>
      rcases List.isChain_cons.mp chain with ⟨goesOn, rest⟩
      refine inductionHypothesis rest (fun other member => only other (List.mem_cons_of_mem _ member)) ?_
      intro first isFirst
      exact token?_of_goesOn (goesOn first isFirst) (known service rfl) (only service List.mem_cons_self)

/-- Polls that learn only one token tell one update at most. -/
theorem Tells.length_le_one {polls : List Service} {told : List (Nat × String)}
    (tells : Tells sink polls told)
    (chain : polls.IsChain fun service next => pollOnce sink service = .ok true next)
    (only : forall service, service ∈ polls -> forall other, service.Learns other -> other = token) :
    told.length ≤ 1 := by
  induction tells with
  | nothing => exact Nat.zero_le _
  | @delivered service polls updates body unpacked other bytes delivers later inductionHypothesis =>
      rcases List.isChain_cons.mp chain with ⟨goesOn, rest⟩
      have others := fun next member => only next (List.mem_cons_of_mem service member)
      have nothing : updates = [] := later.eq_nil_of_known rest others fun first isFirst => by
        rcases delivers.token_eq with ⟨learns, _, remembered⟩
        rw [← only service List.mem_cons_self other learns]
        exact remembered (goesOn first isFirst)
      rw [nothing]
      exact Nat.le_refl 1
  | @undelivered service polls updates fails later inductionHypothesis =>
      rcases List.isChain_cons.mp chain with ⟨_, rest⟩
      exact inductionHypothesis rest fun other member => only other (List.mem_cons_of_mem _ member)

/-! ## The law of updates -/

theorem started_updates (service : Service) : service.started.updates = service.updates :=
  noted_updates .loopStarted rfl

theorem finished_updates (service : Service) : service.finished.updates = service.updates :=
  noted_updates _ rfl

/-- The updates that a run tells are, one by one and in order, the polls that retrieved a body whose
content was read to its end and closed, each with the number of its bytes and the token that the probe of
its poll told.  The bytes are what the body holds, unpacked exactly if it was to be unpacked.  Polls in a
row that learn no two tokens tell one update at most.

The store is arbitrary, and so are the faults of its bodies and the interruptions that come with its
replies.  A sink that is a file has to have a usable path. -/
theorem updates_correspond {start : Service} (ready : start.watcher.isSome = true)
    (isSink : start.sink = some sink) (usable : sink.IsUsable start.storage) (rounds : Nat) :
    exists told, (stateOf (runFor rounds start)).updates = start.updates ++ told ∧
      Tells sink (start.started.polls sink rounds) told ∧
      (forall (service : Service) (body : Body) unpacked token bytes,
        service.Delivers sink body unpacked token bytes -> body.IsLive ->
          body.failure = none ∧ body.closeFault = none ∧ body.holds unpacked = some bytes) ∧
      forall before stretch after token,
        start.started.polls sink rounds = before ++ (stretch ++ after) ->
        (forall service, service ∈ stretch -> forall other, service.Learns other -> other = token) ->
        exists first middle last, told = first ++ (middle ++ last) ∧ Tells sink before first ∧
          Tells sink stretch middle ∧ Tells sink after last ∧ middle.length ≤ 1 := by
  rcases @pollRounds_updates sink start.started rounds usable with ⟨told, tells, same⟩
  refine ⟨told, ?_, tells, fun _ _ _ _ _ delivers live => delivers.holds live, ?_⟩
  · rw [started_updates] at same
    rw [runFor_eq ready isSink, ← same]
    cases pollRounds sink rounds start.started with
    | ok _ after => exact finished_updates after
    | error failure after => rfl
  · intro before stretch after token turns only
    have chain := polls_isChain sink rounds start.started
    rw [turns] at tells chain
    rcases tells.split with ⟨first, rest, rfl, tellsFirst, tellsRest⟩
    rcases tellsRest.split with ⟨middle, last, rfl, tellsMiddle, tellsLast⟩
    refine ⟨first, middle, last, rfl, tellsFirst, tellsMiddle, tellsLast, ?_⟩
    exact tellsMiddle.length_le_one chain.right_of_append.left_of_append only

/-- A gzip file of which twenty bytes come before the stream breaks. -/
def cutMember : Body := { rest := Gzip.letterMember.take 20, failure := some (.brokenBody "cut") }

/-- A store that serves three versions and is asked for the first one twice.  The transfer of the second
one breaks. -/
def beforeVersionLost : Service where
  settings := { bucket := "b", key := "k.gz" }
  watcher := some
    { target := { bucket := "b", key := "k.gz" }
      credentials := some (Credentials.resolve { bucket := "b", key := "k.gz" } []) }
  sink := some .output
  around :=
    { remote :=
        { heads :=
            [{ outcome := .ok { tag := some "first" } }, { outcome := .ok { tag := some "first" } },
              { outcome := .ok { tag := some "second" } }, { outcome := .ok { tag := some "third" } }]
          gets :=
            [{ outcome := .ok { body := some (.ofBytes Gzip.letterMember) } },
              { outcome := .ok { body := some cutMember } },
              { outcome := .ok { body := some (.ofBytes Gzip.letterMember) } }] } }

/-- The tokens that the probes of the first two polls are told. -/
theorem learns_beforeVersionLost :
    forall service, service ∈ (beforeVersionLost.started.polls .output 4).take 2 ->
      forall other, service.Learns other -> other = "first" := by
  have told : forall service, service ∈ (beforeVersionLost.started.polls .output 4).take 2 ->
      service.scene?.map (fun scene => scene.headReply.outcome.toOption.map Metadata.token) =
        some (some "first") := by
    decide +kernel
  rintro service member other ⟨scene, metadata, isScene, _, outcome, rfl⟩
  have first := told service member
  rw [isScene, Option.map_some, outcome] at first
  exact Option.some.inj (Option.some.inj first)

/-- The first and the third version are told, and the first two polls tell one update. -/
theorem updates_correspond_around_loss :
    beforeVersionLost.watcher.isSome = true ∧ beforeVersionLost.sink = some .output ∧
      Sink.output.IsUsable beforeVersionLost.storage ∧
      Tells .output (beforeVersionLost.started.polls .output 4) [(1, "first"), (1, "third")] ∧
      exists middle, Tells .output ((beforeVersionLost.started.polls .output 4).take 2) middle ∧
        middle.length ≤ 1 := by
  have usable : Sink.output.IsUsable beforeVersionLost.storage := trivial
  have ran : (stateOf (runFor 4 beforeVersionLost)).updates = [(1, "first"), (1, "third")] := by
    decide +kernel
  rcases updates_correspond rfl rfl usable 4 with ⟨told, same, tells, _, stretches⟩
  rw [ran] at same
  have all : [(1, "first"), (1, "third")] = told := same
  rcases stretches [] ((beforeVersionLost.started.polls .output 4).take 2)
    ((beforeVersionLost.started.polls .output 4).drop 2) "first" (List.take_append_drop 2 _).symm
    learns_beforeVersionLost with ⟨_, middle, _, _, _, tellsMiddle, _, few⟩
  exact ⟨rfl, rfl, usable, all ▸ tells, middle, tellsMiddle, few⟩

end Service
end ObjectWatch
