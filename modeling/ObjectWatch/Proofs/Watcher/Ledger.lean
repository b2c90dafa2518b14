import ObjectWatch.Proofs.Watcher.Retrieval

/-!
# The counters as a ledger

The counters of a watcher are kept in four places of a poll, and a poll has a dozen ends.  `Visit` is what
can be seen of a poll without the counters: how its requests ended, as far as they were sent, and whether
it was cancelled when it had remembered a new token already.  `Ledger` compares the counters with all the
visits so far.

`Entry` lists what a poll enters for its visit.  Every request that comes to an end is entered once, and
one that is broken off by an interruption is entered nowhere, so the answered probes are balanced by what
came after them.
-/

namespace ObjectWatch

open Watcher

/-! ## What is seen of a poll -/

/-- How the requests of a poll ended, as far as it sent them, and whether it was cancelled after it had
remembered a new token. -/
structure Visit where
  probe : Option (Except Fault Metadata) := none
  retrieval : Option (Except Fault (Body × Option String)) := none
  withdrawn : Bool := false

namespace Visit

/-- A request for metadata was sent. -/
def probes (visit : Visit) : Bool := visit.probe.isSome

/-- A request for content was sent. -/
def retrieves (visit : Visit) : Bool := visit.retrieval.isSome

/-- The request for metadata was answered, or it failed and was not broken off. -/
def probeEnds (visit : Visit) : Bool :=
  match visit.probe with
  | some (.ok _) => true
  | some (.error cause) => cause.isOrdinary
  | none => false

/-- The request for metadata failed and was not broken off. -/
def probeFails (visit : Visit) : Bool :=
  match visit.probe with
  | some (.error cause) => cause.isOrdinary
  | _ => false

/-- The request for content brought content. -/
def brings (visit : Visit) : Bool :=
  match visit.retrieval with
  | some (.ok _) => true
  | _ => false

/-- The request for content was broken off. -/
def breaksOff (visit : Visit) : Bool :=
  match visit.retrieval with
  | some (.error cause) => !cause.isOrdinary
  | _ => false

/-- The token of the version whose content was brought. -/
def broughtToken? (visit : Visit) : Option String :=
  match visit.probe, visit.retrieval with
  | some (.ok metadata), some (.ok _) => some metadata.token
  | _, _ => none

end Visit

/-- A poll ended because the watcher was cancelled. -/
def PollEnd.isCancelled : PollEnd -> Bool
  | .error (.cancelled _) _ => true
  | _ => false

namespace Scene

/-- What is seen of a poll that has the given end. -/
def visitOf (scene : Scene) (result : PollEnd) : Visit where
  probe := if scene.heads < (stateOf result).heads then some scene.headReply.outcome else none
  retrieval := if scene.gets < (stateOf result).gets then some scene.fetched else none
  withdrawn := result.isCancelled &&
    (stateOf result).watcher.progress.token != scene.watcher.progress.token

/-- What is seen of the polls of a run. -/
def visits : List Move -> Scene -> List Visit
  | [], _ => []
  | .poll :: moves, scene =>
      scene.visitOf (poll scene) :: visits moves (stateOf (poll scene))
  | move :: moves, scene => visits moves (move.apply scene)

end Scene

/-! ## What a poll enters -/

/-- The counters after a poll, by what was seen of it. -/
inductive Entry (before : Tally) : Visit -> Tally -> Prop where
  | nothing : Entry before {} before
  | probeBrokenOff (cause : Fault) (aborts : cause.isOrdinary = false) :
      Entry before { probe := some (.error cause) } before
  | probeFailed (cause : Fault) (ordinary : cause.isOrdinary = true) :
      Entry before { probe := some (.error cause) } (before.recordProbe false)
  | unchanged (metadata : Metadata) :
      Entry before { probe := some (.ok metadata) } (before.recordProbe true).recordUnchanged
  | withdrawn (metadata : Metadata) :
      Entry before { probe := some (.ok metadata), withdrawn := true } (before.recordProbe true)
  | brokenOff (metadata : Metadata) (cause : Fault) (aborts : cause.isOrdinary = false) :
      Entry before { probe := some (.ok metadata), retrieval := some (.error cause) }
        (before.recordProbe true)
  | retrievalFailed (metadata : Metadata) (cause : Fault) (ordinary : cause.isOrdinary = true) :
      Entry before { probe := some (.ok metadata), retrieval := some (.error cause) }
        ((before.recordProbe true).recordRetrieval metadata.token false)
  | brought (metadata : Metadata) (content : Body × Option String) :
      Entry before { probe := some (.ok metadata), retrieval := some (.ok content) }
        ((before.recordProbe true).recordRetrieval metadata.token true)
  | decoded (metadata : Metadata) (content : Body × Option String) :
      Entry before { probe := some (.ok metadata), retrieval := some (.ok content) }
        (((before.recordProbe true).recordRetrieval metadata.token true).recordDecode true)
  | undecoded (metadata : Metadata) (content : Body × Option String) :
      Entry before { probe := some (.ok metadata), retrieval := some (.ok content) }
        (((before.recordProbe true).recordRetrieval metadata.token true).recordDecode false)

namespace Scene

variable {scene : Scene} {result : PollEnd}

/-- The wait before a poll is not seen. -/
theorem visitOf_begun (result : PollEnd) : scene.begun.visitOf result = scene.visitOf result := by
  have fetched : scene.begun.fetched = scene.fetched := by
    unfold fetched getReply
    rw [begun_remote]
  unfold visitOf
  rw [begun_heads, begun_gets, begun_headReply, fetched, begun_token]

/-- A poll that sends nothing is not seen. -/
theorem visitOf_of_silent (heads : (stateOf result).heads = scene.heads)
    (gets : (stateOf result).gets = scene.gets)
    (token : (stateOf result).watcher.progress.token = scene.watcher.progress.token) :
    scene.visitOf result = {} := by
  unfold visitOf
  rw [heads, gets, token, if_neg (Nat.lt_irrefl _), if_neg (Nat.lt_irrefl _), bne_self_eq_false,
    Bool.and_false]

/-- What is seen of a poll that asks for metadata alone. -/
theorem visitOf_of_probe (heads : (stateOf result).heads = scene.heads + 1)
    (gets : (stateOf result).gets = scene.gets) :
    scene.visitOf result =
      { probe := some scene.headReply.outcome
        withdrawn := result.isCancelled &&
          (stateOf result).watcher.progress.token != scene.watcher.progress.token } := by
  unfold visitOf
  rw [heads, gets, if_pos (Nat.lt_succ_self _), if_neg (Nat.lt_irrefl _)]

/-- What is seen of a poll that asks for content as well. -/
theorem visitOf_of_retrieval (heads : (stateOf result).heads = scene.heads + 1)
    (gets : (stateOf result).gets = scene.gets + 1) (goesOn : result.isCancelled = false) :
    scene.visitOf result =
      { probe := some scene.headReply.outcome, retrieval := some scene.fetched } := by
  unfold visitOf
  rw [heads, gets, if_pos (Nat.lt_succ_self _), if_pos (Nat.lt_succ_self _), goesOn, Bool.false_and]

end Scene

/-- Opening content enters at most one attempt to decode, and it is not cancelled. -/
theorem OpeningCourse.entered {scene : Scene} {token : String} {body : Body}
    {encoding : Option String} {result : PollEnd}
    (course : OpeningCourse scene token body encoding result) :
    result.isCancelled = false ∧
      ((stateOf result).watcher.tally = scene.watcher.tally ∨
        exists success, (stateOf result).watcher.tally = scene.watcher.tally.recordDecode success) := by
  cases course with
  | raw asIs => exact ⟨rfl, .inl rfl⟩
  | unpacked stream unpacks opened => exact ⟨rfl, .inr ⟨true, rfl⟩⟩
  | broken cause left unpacks failed unrelated => exact ⟨rfl, .inl rfl⟩
  | notGzip cause left unpacks failed spoils =>
      have tally := congrArg Watcher.tally (scene.givenUp_watcher cause)
      exact ⟨rfl, .inr ⟨false, tally⟩⟩

/-- A retrieval for a token that was just remembered enters what is seen of it. -/
theorem RetrievalCourse.entry {scene : Scene} {metadata : Metadata} {result : PollEnd}
    (course : RetrievalCourse
      ((scene.probed.counted (Tally.recordProbe true)).committed metadata.token) metadata.token result)
    (outcome : scene.headReply.outcome = .ok metadata)
    (new : metadata.token ≠ scene.watcher.progress.token)
    (heads : (stateOf result).heads = scene.heads + 1) :
    Entry scene.watcher.tally (scene.visitOf result) (stateOf result).watcher.tally := by
  have tally : ((scene.probed.counted (Tally.recordProbe true)).committed
      metadata.token).watcher.tally = scene.watcher.tally.recordProbe true := by
    simp
  have token : ((scene.probed.counted (Tally.recordProbe true)).committed
      metadata.token).watcher.progress.token = metadata.token := rfl
  have fetched : ((scene.probed.counted (Tally.recordProbe true)).committed
      metadata.token).fetched = scene.fetched := by
    unfold Scene.fetched Scene.getReply
    rw [Scene.committed_remote, Scene.counted_around, Scene.probed_remote]
    rfl
  have unasked : ((scene.probed.counted (Tally.recordProbe true)).committed
      metadata.token).gets = scene.gets := by
    simp [Scene.gets, Call.isGet]
  have asked : ((scene.probed.counted (Tally.recordProbe true)).committed
      metadata.token).retrieved.gets = scene.gets + 1 := by
    simp [Scene.gets, Call.isGet]
  generalize (scene.probed.counted (Tally.recordProbe true)).committed metadata.token = committed
    at course tally token fetched unasked asked
  have retrieved : committed.retrieved.watcher.tally = scene.watcher.tally.recordProbe true := by
    rw [committed.retrieved_watcher]
    exact tally
  cases course with
  | stopped cancelled =>
      have moved : (committed.watcher.progress.token != scene.watcher.progress.token) = true := by
        rw [token]
        exact bne_iff_ne.mpr new
      rw [Scene.visitOf_of_probe heads unasked, outcome]
      show Entry _ { probe := _, withdrawn := _ != _ } committed.watcher.tally
      rw [stateOf, moved, tally]
      exact .withdrawn metadata
  | aborted cause free failed aborts =>
      rw [fetched] at failed
      rw [Scene.visitOf_of_retrieval heads asked rfl, outcome, failed, stateOf, retrieved]
      exact .brokenOff metadata cause aborts
  | failed cause free failed ordinary =>
      rw [fetched] at failed
      rw [Scene.visitOf_of_retrieval heads ?_ rfl, outcome, failed]
      · show Entry _ _ (committed.retrieved.watcher.tally.recordRetrieval metadata.token false)
        rw [retrieved]
        exact .retrievalFailed metadata cause ordinary
      · rw [← asked]
        exact congrArg (List.countP Call.isGet) (Scene.note_calls _ _)
  | delivered body encoding result free brought course =>
      rw [fetched] at brought
      have gets : (stateOf result).gets = scene.gets + 1 := by
        rw [← asked]
        exact congrArg (List.countP Call.isGet) course.calls
      rcases course.entered with ⟨goesOn, entered⟩
      rw [Scene.visitOf_of_retrieval heads gets goesOn, outcome, brought]
      rw [Scene.counted_watcher] at entered
      dsimp only at entered
      rw [retrieved] at entered
      rcases entered with same | ⟨success, decoded⟩
      · rw [same]
        exact .brought metadata (body, encoding)
      · rw [decoded]
        cases success with
        | true => exact .decoded metadata (body, encoding)
        | false => exact .undecoded metadata (body, encoding)

/-- Every path from the first request on enters what is seen of it. -/
theorem ProbeCourse.entry {scene : Scene} {result : PollEnd} (course : ProbeCourse scene result) :
    Entry scene.watcher.tally (scene.visitOf result) (stateOf result).watcher.tally := by
  have heads := course.heads_eq
  have probed : scene.probed.watcher.tally = scene.watcher.tally := by
    rw [scene.probed_watcher]
  have probedGets : scene.probed.gets = scene.gets := by
    simp [Scene.gets, Call.isGet]
  cases course with
  | aborted cause outcome aborts =>
      rw [Scene.visitOf_of_probe heads probedGets, outcome]
      show Entry _ _ scene.probed.watcher.tally
      rw [probed]
      exact .probeBrokenOff cause aborts
  | failed cause outcome ordinary =>
      have gets : ((scene.probed.counted (Tally.recordProbe false)).note (.probeFailed
          scene.watcher.target.bucket scene.watcher.target.key cause)).gets = scene.gets := by
        simp [Scene.gets, Call.isGet]
      rw [Scene.visitOf_of_probe heads gets, outcome]
      show Entry _ _ (scene.probed.watcher.tally.recordProbe false)
      rw [probed]
      exact .probeFailed cause ordinary
  | unchanged metadata outcome known =>
      have gets : (((scene.probed.counted (Tally.recordProbe true)).counted
          Tally.recordUnchanged).note (.unchanged scene.watcher.target.key metadata.token)).gets =
          scene.gets := by
        simp [Scene.gets, Call.isGet]
      rw [Scene.visitOf_of_probe heads gets, outcome]
      show Entry _ _ (scene.probed.watcher.tally.recordProbe true).recordUnchanged
      rw [probed]
      exact .unchanged metadata
  | changed metadata result outcome new course => exact course.entry outcome new heads

/-- Every poll enters what is seen of it. -/
theorem Course.entry {scene : Scene} {result : PollEnd} (course : Course scene result) :
    Entry scene.watcher.tally (scene.visitOf result) (stateOf result).watcher.tally := by
  cases course with
  | notPrepared unprepared =>
      have silent : scene.visitOf (.error .watcherNotReady scene) = {} :=
        Scene.visitOf_of_silent rfl rfl rfl
      rw [silent]
      exact .nothing
  | waitRefused prepared stranded =>
      have silent : scene.visitOf (.error (.foreign Clock.overflow) scene.waitCalled) = {} :=
        Scene.visitOf_of_silent scene.waitCalled_heads scene.waitCalled_gets rfl
      rw [silent]
      exact .nothing
  | stoppedWaiting prepared polled paced cancelled =>
      have silent : scene.visitOf (.error (.cancelled true) scene.waited) = {} := by
        apply Scene.visitOf_of_silent
        · simp [stateOf, Scene.heads, Call.isHead]
        · simp [stateOf, Scene.gets, Call.isGet]
        · rw [stateOf, scene.waited_watcher]
      rw [silent, stateOf, scene.waited_watcher]
      exact .nothing
  | stoppedBefore prepared first cancelled =>
      have silent : scene.visitOf (.error (.cancelled false) scene.begun) = {} := by
        apply Scene.visitOf_of_silent
        · exact scene.begun_heads
        · exact scene.begun_gets
        · exact scene.begun_token
      rw [silent, stateOf, scene.begun_watcher]
      exact .nothing
  | probing result prepared free course =>
      have entry := course.entry
      rw [Scene.visitOf_begun, scene.begun_watcher] at entry
      exact entry

/-! ## What an entry changes -/

namespace Entry

variable {before after : Tally} {visit : Visit}

theorem probes (entry : Entry before visit after) :
    after.probes = before.probes + [visit].countP Visit.probeEnds ∧
      after.probeFailures = before.probeFailures + [visit].countP Visit.probeFails := by
  cases entry <;> simp_all [Tally.recordProbe, Tally.recordUnchanged, Tally.recordRetrieval,
    Tally.recordDecode, Visit.probeEnds, Visit.probeFails]

/-- What an answered probe leads to is entered, or it was broken off. -/
theorem answers (entry : Entry before visit after) :
    after.unchanged + after.retrievals + [visit].countP Visit.withdrawn +
        [visit].countP Visit.breaksOff + [visit].countP Visit.probeFails =
      before.unchanged + before.retrievals + [visit].countP Visit.probeEnds := by
  cases entry <;> simp_all [Tally.recordProbe, Tally.recordUnchanged, Tally.recordRetrieval,
    Tally.recordDecode, Visit.probeEnds, Visit.probeFails, Visit.breaksOff] <;> omega

theorem updates (entry : Entry before visit after) :
    after.updates = before.updates + [visit].countP Visit.brings := by
  cases entry <;> simp_all [Tally.recordProbe, Tally.recordUnchanged, Tally.recordRetrieval,
    Tally.recordDecode, Tally.updates, Visit.brings] <;> omega

/-- Content is decoded once at most. -/
theorem decodings (entry : Entry before visit after) :
    after.decoded + after.decodeFailures ≤
      before.decoded + before.decodeFailures + [visit].countP Visit.brings := by
  cases entry <;> simp_all [Tally.recordProbe, Tally.recordUnchanged, Tally.recordRetrieval,
    Tally.recordDecode, Visit.brings] <;> omega

/-- Content that was brought leaves its token and a time, and nothing else does. -/
theorem update (entry : Entry before visit after) :
    (visit.brings = true ∧ visit.broughtToken? = some after.lastToken ∧
        after.hasUpdateTime = true) ∨
      (visit.brings = false ∧ visit.broughtToken? = none ∧ after.lastToken = before.lastToken ∧
        after.hasUpdateTime = before.hasUpdateTime) := by
  cases entry <;> simp [Tally.recordProbe, Tally.recordUnchanged, Tally.recordRetrieval,
    Tally.recordDecode, Visit.brings, Visit.broughtToken?]

end Entry

/-! ## The ledger of a run -/

/-- The counters agree with what was seen of all polls so far. -/
structure Ledger (visits : List Visit) (tally : Tally) : Prop where
  /-- A probe is counted when its request came to an end, and only then. -/
  probes : tally.probes = visits.countP Visit.probeEnds
  probeFailures : tally.probeFailures = visits.countP Visit.probeFails
  /-- After a probe that succeeded the object is unchanged, its content is asked for, or the poll was
  cancelled with the new token remembered.  A retrieval is counted unless it was broken off. -/
  balance : (tally.probes : Int) - tally.probeFailures =
    tally.unchanged + tally.retrievals + visits.countP Visit.withdrawn + visits.countP Visit.breaksOff
  updates : tally.updates = visits.countP Visit.brings
  /-- Only content that was brought is decoded, and at most once. -/
  decodings : ((tally.decoded + tally.decodeFailures : Nat) : Int) ≤ tally.updates
  lastToken : tally.lastToken = (visits.filterMap Visit.broughtToken?).getLast?.getD ""
  updateTime : tally.hasUpdateTime = true ↔ 0 < tally.updates

namespace Ledger

theorem blank : Ledger [] {} where
  probes := rfl
  probeFailures := rfl
  balance := rfl
  updates := rfl
  decodings := Int.le_refl 0
  lastToken := rfl
  updateTime := by decide

/-- An entry keeps the counters in agreement. -/
theorem enter {visits : List Visit} {before after : Tally} {visit : Visit}
    (ledger : Ledger visits before) (entry : Entry before visit after) :
    Ledger (visits ++ [visit]) after where
  probes := by rw [List.countP_append, entry.probes.1, ledger.probes]
  probeFailures := by rw [List.countP_append, entry.probes.2, ledger.probeFailures]
  balance := by
    have answers := entry.answers
    have before := ledger.balance
    rw [entry.probes.1, entry.probes.2, List.countP_append, List.countP_append]
    omega
  updates := by
    rw [List.countP_append, entry.updates, ledger.updates]
    rfl
  decodings := by
    have once := entry.decodings
    have before := ledger.decodings
    rw [entry.updates]
    omega
  lastToken := by
    rw [List.filterMap_append, List.getLast?_append]
    rcases entry.update with ⟨_, token, _⟩ | ⟨_, token, same, _⟩
    · rw [List.filterMap_cons_some token]
      rfl
    · rw [List.filterMap_cons_none token, same]
      exact ledger.lastToken
  updateTime := by
    have updates := entry.updates
    rcases entry.update with ⟨brings, _, time⟩ | ⟨idle, _, _, same⟩
    · rw [List.countP_singleton, if_pos brings, ledger.updates] at updates
      refine iff_of_true time ?_
      omega
    · rw [List.countP_singleton, if_neg (ne_true_of_eq_false idle)] at updates
      rw [same, ledger.updateTime]
      omega

end Ledger

/-- Every request of a poll is seen. -/
theorem Course.requests_seen {scene : Scene} {result : PollEnd} (course : Course scene result) :
    (stateOf result).heads = scene.heads + [scene.visitOf result].countP Visit.probes ∧
      (stateOf result).gets = scene.gets + [scene.visitOf result].countP Visit.retrieves := by
  have sent : ((stateOf result).heads = scene.heads + 1 ∨ (stateOf result).heads = scene.heads) ∧
      ((stateOf result).gets = scene.gets + 1 ∨ (stateOf result).gets = scene.gets) := by
    rcases course.requests with ⟨heads, _, gets⟩ | ⟨heads, _, gets⟩ | ⟨heads, gets⟩
    · exact ⟨.inl heads, .inl gets⟩
    · exact ⟨.inl heads, .inr gets⟩
    · exact ⟨.inr heads, .inr gets⟩
  constructor
  · rcases sent.1 with heads | heads <;>
      simp [Scene.visitOf, Visit.probes, heads]
  · rcases sent.2 with gets | gets <;>
      simp [Scene.visitOf, Visit.retrieves, gets]

namespace Scene

/-- Every request of a run is seen in one of its polls. -/
theorem run_requests_seen (moves : List Move) (scene : Scene) :
    (scene.run moves).heads = scene.heads + (scene.visits moves).countP Visit.probes ∧
      (scene.run moves).gets = scene.gets + (scene.visits moves).countP Visit.retrieves := by
  induction moves generalizing scene with
  | nil => exact ⟨rfl, rfl⟩
  | cons move moves inductionHypothesis =>
      rcases inductionHypothesis (move.apply scene) with ⟨heads, gets⟩
      rw [run_cons, heads, gets]
      cases move with
      | poll =>
          rcases (poll_course scene).requests_seen with ⟨probed, retrieved⟩
          rw [visits, ← List.singleton_append, List.countP_append, List.countP_append]
          constructor
          · rw [← Nat.add_assoc, ← probed]
            rfl
          · rw [← Nat.add_assoc, ← retrieved]
            rfl
      | cancel =>
          have calls := scene.cancel_calls
          constructor
          · exact congrArg (· + _) (congrArg (List.countP Call.isHead) calls)
          · exact congrArg (· + _) (congrArg (List.countP Call.isGet) calls)
      | reset => exact ⟨rfl, rfl⟩

/-- A run keeps the counters in agreement with what was seen before it and during it. -/
theorem run_ledger (moves : List Move) {scene : Scene} {earlier : List Visit}
    (ledger : Ledger earlier scene.watcher.tally) :
    Ledger (earlier ++ scene.visits moves) (scene.run moves).watcher.tally := by
  induction moves generalizing scene earlier with
  | nil =>
      rw [visits, List.append_nil]
      exact ledger
  | cons move moves inductionHypothesis =>
      cases move with
      | poll =>
          have entered := ledger.enter (poll_course scene).entry
          have later := @inductionHypothesis (stateOf (poll scene)) _ entered
          rw [List.append_assoc] at later
          exact later
      | cancel => exact @inductionHypothesis scene.cancel _ ledger
      | reset => exact @inductionHypothesis scene.resetPause _ ledger

end Scene

/-- Whatever a watcher goes through since its counters were blank, they are the ledger of its polls, in
which every request that it sent is seen. -/
theorem tally_balances {start : Scene} (blank : start.watcher.tally = {}) (moves : List Move) :
    Ledger (start.visits moves) (start.run moves).watcher.tally ∧
      (start.run moves).heads = start.heads + (start.visits moves).countP Visit.probes ∧
      (start.run moves).gets = start.gets + (start.visits moves).countP Visit.retrieves := by
  have beginning : Ledger [] start.watcher.tally := by
    rw [blank]
    exact .blank
  exact ⟨Scene.run_ledger moves beginning, start.run_requests_seen moves⟩

/-- A store that fails once, has three versions, and is interrupted from the keyboard while it serves the
last one.  The watcher is cancelled while the second one is reported. -/
def eventful : Scene where
  watcher :=
    { target := { bucket := "b", key := "k" }
      credentials := some (Credentials.resolve { bucket := "b", key := "k" } []) }
  around :=
    { remote :=
        { heads :=
            [{ outcome := .error (.system .timeout "slow") },
              { outcome := .ok { tag := some "first" } },
              { interruption := { cancels := true }, outcome := .ok { tag := some "second" } },
              { outcome := .ok { tag := some "third" } },
              { outcome := .ok { tag := some "third" } }]
          gets :=
            [{ outcome := .ok { body := some (.ofBytes [1]) } },
              { outcome := .error (.keyboard "") }] } }

/-- Of the four probes that succeed one brings content, one is withdrawn, one is broken off, and one finds
nothing new.  The last token is that of the only content, although two versions came after it. -/
theorem tally_balances_eventful :
    eventful.watcher.tally = {} ∧
      Ledger (eventful.visits [.poll, .poll, .poll, .reset, .poll, .poll])
        (eventful.run [.poll, .poll, .poll, .reset, .poll, .poll]).watcher.tally ∧
      (eventful.visits [.poll, .poll, .poll, .reset, .poll, .poll]).countP Visit.withdrawn = 1 ∧
      (eventful.visits [.poll, .poll, .poll, .reset, .poll, .poll]).countP Visit.breaksOff = 1 ∧
      (eventful.run [.poll, .poll, .poll, .reset, .poll, .poll]).watcher.tally =
        { probes := 5, probeFailures := 1, unchanged := 1, retrievals := 1, lastToken := "first"
          hasUpdateTime := true } := by
  rcases @tally_balances eventful rfl [.poll, .poll, .poll, .reset, .poll, .poll] with ⟨ledger, _⟩
  refine ⟨rfl, ledger, ?_, ?_, ?_⟩
  · decide +kernel
  · decide +kernel
  · decide +kernel

end ObjectWatch
