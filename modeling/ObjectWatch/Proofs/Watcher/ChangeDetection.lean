import ObjectWatch.Proofs.Watcher.Run

/-!
# Change detection

The token that a watcher remembers is the token of the last probe that succeeded, whatever became of
the poll after that: the token is committed before the content is asked for, and nothing takes it
back.  So a poll asks for content exactly when its own probe brings another token than the last
successful probe before it, unless the poll is cancelled in between, and a version whose retrieval
failed is not asked for again before the token has moved.

The law is about every run of polls, cancellations and resets over every store, since the replies of
the store and the interruptions that come with them are arbitrary.
-/

namespace ObjectWatch

/-- The tokens that replies to probes brought, in order.  A probe that failed brought none. -/
def tokensOf (replies : List (Reply Metadata)) : List String :=
  replies.filterMap fun reply => reply.outcome.toOption.map Metadata.token

/-- The token of the last probe that succeeded, or the given one if there was none. -/
def tokenAfter (token : String) (replies : List (Reply Metadata)) : String :=
  (tokensOf replies).getLast?.getD token

/-- The token of the last probe that succeeded, empty if there was none. -/
def latestToken (replies : List (Reply Metadata)) : String := tokenAfter "" replies

theorem tokensOf_append (first second : List (Reply Metadata)) :
    tokensOf (first ++ second) = tokensOf first ++ tokensOf second :=
  List.filterMap_append

theorem tokenAfter_append (token : String) (first second : List (Reply Metadata)) :
    tokenAfter token (first ++ second) = tokenAfter (tokenAfter token first) second := by
  unfold tokenAfter
  rw [tokensOf_append, List.getLast?_append]
  cases (tokensOf second).getLast? with
  | none => rfl
  | some last => rfl

/-- Replies that bring nothing but a token bring no other token. -/
theorem tokenAfter_of_forall {token : String} {replies : List (Reply Metadata)}
    (same : forall other, other ∈ tokensOf replies -> other = token) :
    tokenAfter token replies = token := by
  unfold tokenAfter
  cases last : (tokensOf replies).getLast? with
  | none => rfl
  | some other => exact same other (List.mem_of_getLast? last)

/-- The token after the next reply, if the store has one. -/
theorem tokenAfter_take_one (token : String) (replies : List (Reply Metadata)) :
    tokenAfter token (replies.take 1) =
      match (Remote.next replies).1.outcome with
      | .ok metadata => metadata.token
      | .error _ => token := by
  cases replies with
  | nil => rfl
  | cons reply rest =>
      unfold tokenAfter tokensOf Remote.next
      cases outcome : reply.outcome with
      | ok metadata => simp [outcome, Except.toOption]
      | error cause => simp [outcome, Except.toOption]

/-- A probe that succeeds brings a token. -/
theorem mem_tokensOf_take_one {replies : List (Reply Metadata)} {metadata : Metadata}
    (outcome : (Remote.next replies).1.outcome = .ok metadata) :
    metadata.token ∈ tokensOf (replies.take 1) := by
  cases replies with
  | nil => cases outcome
  | cons reply rest =>
      have outcome : reply.outcome = .ok metadata := outcome
      simp [tokensOf, outcome, Except.toOption]

/-! ## One poll -/

namespace Scene

/-- The wait at the beginning of a poll changes nothing that decides about requests. -/
theorem begun_bringsChange (scene : Scene) : scene.begun.BringsChange ↔ scene.BringsChange := by
  unfold BringsChange headReply
  rw [scene.begun_remote, scene.begun_stopper, scene.begun_watcher]
  rfl

theorem waitCalled_heads (scene : Scene) : scene.waitCalled.heads = scene.heads := by
  simp [heads, Call.isHead]

theorem waitCalled_gets (scene : Scene) : scene.waitCalled.gets = scene.gets := by
  simp [gets, Call.isGet]

theorem begun_heads (scene : Scene) : scene.begun.heads = scene.heads := by
  unfold heads
  rw [scene.begun_calls]
  split <;> simp [Call.isHead]

theorem begun_gets (scene : Scene) : scene.begun.gets = scene.gets := by
  unfold gets
  rw [scene.begun_calls]
  split <;> simp [Call.isGet]

end Scene

namespace Course

variable {scene : Scene} {result : PollEnd}

/-- The requests of a poll: a probe and a retrieval if the probe brings a change, a probe alone if it
does not, and none if the poll comes to its end before. -/
theorem requests (course : Course scene result) :
    ((stateOf result).heads = scene.heads + 1 ∧ scene.BringsChange ∧
        (stateOf result).gets = scene.gets + 1) ∨
      ((stateOf result).heads = scene.heads + 1 ∧ ¬ scene.BringsChange ∧
        (stateOf result).gets = scene.gets) ∨
      ((stateOf result).heads = scene.heads ∧ (stateOf result).gets = scene.gets) := by
  cases course with
  | notPrepared unprepared => exact Or.inr (Or.inr ⟨rfl, rfl⟩)
  | waitRefused prepared stranded =>
      exact Or.inr (Or.inr ⟨scene.waitCalled_heads, scene.waitCalled_gets⟩)
  | stoppedWaiting prepared polled paced cancelled =>
      refine Or.inr (Or.inr ⟨?_, ?_⟩)
      · simp [stateOf, Scene.heads, Call.isHead]
      · simp [stateOf, Scene.gets, Call.isGet]
  | stoppedBefore prepared first cancelled =>
      exact Or.inr (Or.inr ⟨scene.begun_heads, scene.begun_gets⟩)
  | probing result prepared free course =>
      have headsEq := course.heads_eq
      rw [scene.begun_heads] at headsEq
      have getsEq := course.gets_eq (Scene.begun_free free)
      rw [scene.begun_gets, scene.begun_bringsChange] at getsEq
      rcases getsEq with ⟨brings, getsEq⟩ | ⟨brings, getsEq⟩
      · exact Or.inl ⟨headsEq, brings, getsEq⟩
      · exact Or.inr (Or.inl ⟨headsEq, brings, getsEq⟩)

/-- The replies that a poll is given: the token that it remembers goes on from them, and if the poll
asks for content then one of them brought another token. -/
theorem account (course : Course scene result) :
    exists heads gets, Given scene (stateOf result) heads gets ∧
      (stateOf result).watcher.progress.token =
        tokenAfter scene.watcher.progress.token heads ∧
      ((stateOf result).gets ≠ scene.gets ->
        exists token, token ∈ tokensOf heads ∧ token ≠ scene.watcher.progress.token) := by
  cases course with
  | notPrepared unprepared =>
      exact ⟨[], [], .of_same rfl, rfl, fun differ => False.elim (differ rfl)⟩
  | waitRefused prepared stranded =>
      exact ⟨[], [], .of_same rfl, rfl, fun differ => False.elim (differ scene.waitCalled_gets)⟩
  | stoppedWaiting prepared polled paced cancelled =>
      refine ⟨[], [], .of_same (Scene.interruptWait_remote _), ?_, fun differ => ?_⟩
      · show scene.waited.watcher.progress.token = _
        rw [Scene.waited_watcher]
        rfl
      · exact False.elim (differ (by simp [stateOf, Scene.gets, Call.isGet]))
  | stoppedBefore prepared first cancelled =>
      refine ⟨[], [], .of_same scene.begun_remote, ?_, fun differ => ?_⟩
      · exact scene.begun_token
      · exact False.elim (differ scene.begun_gets)
  | probing result prepared free course =>
      rcases course.given with ⟨gets, given⟩
      rw [scene.begun_remote] at given
      have reply : scene.begun.headReply = (Remote.next scene.around.remote.heads).1 := by
        unfold Scene.headReply
        rw [scene.begun_remote]
        rfl
      have token := scene.begun_token
      refine ⟨_, gets, (Given.of_same scene.begun_remote).trans given, ?_, fun differ => ?_⟩
      · have taken := tokenAfter_take_one scene.watcher.progress.token scene.around.remote.heads
        rw [course.token_eq, reply, token, List.nil_append]
        refine Eq.trans ?_ taken.symm
        cases (Remote.next scene.around.remote.heads).1.outcome <;> rfl
      · rw [← scene.begun_gets] at differ
        rcases course.gets_eq (Scene.begun_free free) with ⟨brings, _⟩ | ⟨_, same⟩
        · rcases brings with ⟨⟨metadata, outcome, new⟩, _⟩
          rw [reply] at outcome
          rw [token] at new
          exact ⟨metadata.token, mem_tokensOf_take_one outcome, new⟩
        · exact False.elim (differ same)

end Course

/-! ## All moves -/

/-- One move: the token goes on from the replies that were given, and content is asked for only if
one of them brought another token. -/
theorem Move.account (move : Move) (scene : Scene) :
    exists heads gets, Given scene (move.apply scene) heads gets ∧
      (move.apply scene).watcher.progress.token =
        tokenAfter scene.watcher.progress.token heads ∧
      ((move.apply scene).gets ≠ scene.gets ->
        exists token, token ∈ tokensOf heads ∧ token ≠ scene.watcher.progress.token) := by
  cases move with
  | poll => exact (poll_course scene).account
  | cancel =>
      refine ⟨[], [], .of_same rfl, rfl, fun differ => False.elim (differ ?_)⟩
      exact congrArg (List.countP Call.isGet) scene.cancel_calls
  | reset => exact ⟨[], [], .of_same rfl, rfl, fun differ => False.elim (differ rfl)⟩

namespace Scene

/-- A run: the token goes on from all the replies that were given. -/
theorem run_account (moves : List Move) (scene : Scene) :
    exists heads gets, Given scene (scene.run moves) heads gets ∧
      (scene.run moves).watcher.progress.token =
        tokenAfter scene.watcher.progress.token heads := by
  induction moves generalizing scene with
  | nil => exact ⟨[], [], .of_same rfl, rfl⟩
  | cons move moves inductionHypothesis =>
      rcases move.account scene with ⟨heads, gets, given, token, _⟩
      rcases inductionHypothesis (move.apply scene) with ⟨moreHeads, moreGets, moreGiven, moreToken⟩
      refine ⟨heads ++ moreHeads, gets ++ moreGets, given.trans moreGiven, ?_⟩
      rw [run_cons, moreToken, token, tokenAfter_append]

/-- While the store reports no other token than the remembered one, no content is asked for. -/
theorem run_gets_of_same (moves : List Move) (scene : Scene) {heads : List (Reply Metadata)}
    {gets : List (Reply Delivery)} (given : Given scene (scene.run moves) heads gets)
    (same : forall token, token ∈ tokensOf heads -> token = scene.watcher.progress.token) :
    (scene.run moves).gets = scene.gets := by
  induction moves generalizing scene heads gets with
  | nil => rfl
  | cons move moves inductionHypothesis =>
      rcases move.account scene with ⟨first, firstGets, firstGiven, firstToken, asked⟩
      rcases run_account moves (move.apply scene) with ⟨rest, restGets, restGiven, _⟩
      -- the replies of the run are those of its first move and those of the rest
      have parts := (firstGiven.trans restGiven).unique given
      rw [← parts.1, tokensOf_append] at same
      have sameFirst : forall token, token ∈ tokensOf first ->
          token = scene.watcher.progress.token :=
        fun token member => same token (List.mem_append_left _ member)
      have kept : (move.apply scene).watcher.progress.token = scene.watcher.progress.token := by
        rw [firstToken, tokenAfter_of_forall sameFirst]
      have later := inductionHypothesis (move.apply scene) restGiven
        (fun token member => by rw [kept]; exact same token (List.mem_append_right _ member))
      have here : (move.apply scene).gets = scene.gets :=
        Decidable.byContradiction fun differ => by
          rcases asked differ with ⟨token, member, new⟩
          exact new (sameFirst token member)
      rw [run_cons, later, here]

end Scene

/-! ## The law of change detection -/

/-- Whatever a watcher went through since nothing was seen, it remembers the token of the last probe
that succeeded.  Its next poll asks for content at most once, and does so exactly when it probes, its
probe brings another token than that, and it is not cancelled while it awaits the probe.  A version
that was seen, also one that could not be retrieved, opened or delivered, is not asked for again
before some probe brings another token. -/
theorem change_detection (start : Scene) (unseen : start.watcher.progress.token = "")
    (moves : List Move) :
    exists heads gets, Given start (start.run moves) heads gets ∧
      (start.run moves).watcher.progress.token = latestToken heads ∧
      (stateOf (Watcher.poll (start.run moves))).gets ≤ (start.run moves).gets + 1 ∧
      ((stateOf (Watcher.poll (start.run moves))).gets = (start.run moves).gets + 1 ↔
        (stateOf (Watcher.poll (start.run moves))).heads = (start.run moves).heads + 1 ∧
        (exists metadata, (start.run moves).headReply.outcome = .ok metadata ∧
          metadata.token ≠ latestToken heads) ∧
        (start.run moves).headReply.interruption.cancelsIn
          (start.run moves).around.stopper = false) ∧
      (forall later laterHeads laterGets,
        Given (start.run moves) ((start.run moves).run later) laterHeads laterGets ->
        (forall token, token ∈ tokensOf laterHeads -> token = latestToken heads) ->
        ((start.run moves).run later).gets = (start.run moves).gets) := by
  rcases start.run_account moves with ⟨heads, gets, given, token⟩
  rw [unseen] at token
  have latest : (start.run moves).watcher.progress.token = latestToken heads := token
  have requests := (poll_course (start.run moves)).requests
  unfold Scene.BringsChange at requests
  rw [latest] at requests
  refine ⟨heads, gets, given, latest, ?_, ?_, ?_⟩
  · rcases requests with ⟨_, _, asked⟩ | ⟨_, _, same⟩ | ⟨_, same⟩ <;> omega
  · constructor
    · intro asked
      rcases requests with ⟨probed, brings, _⟩ | ⟨_, _, same⟩ | ⟨_, same⟩
      · exact ⟨probed, brings⟩
      · omega
      · omega
    · rintro ⟨probed, brings⟩
      rcases requests with ⟨_, _, asked⟩ | ⟨_, absent, _⟩ | ⟨unprobed, _⟩
      · exact asked
      · exact False.elim (absent brings)
      · omega
  · intro later laterHeads laterGets laterGiven same
    exact Scene.run_gets_of_same later _ laterGiven (by rw [latest]; exact same)

/-- A store whose object goes from one version to a second and back, with a failed probe in between,
and with a cancellation that arrives while the second version is probed. -/
def wavering : Scene where
  watcher :=
    { target := { bucket := "b", key := "k" }
      credentials := some (Credentials.resolve { bucket := "b", key := "k" } []) }
  around :=
    { remote :=
        { heads :=
            [{ outcome := .ok { tag := some "first" } },
              { outcome := .error (.system .connection "reset") },
              { interruption := { cancels := true }, outcome := .ok { tag := some "second" } },
              { outcome := .ok { tag := some "second" } },
              { outcome := .ok { tag := some "first" } }]
          gets := [{ outcome := .ok { body := some (.ofBytes [1]) } }] } }

/-- The second version is remembered although it was never retrieved and was probed again, and the
first one is retrieved once more when it is back. -/
theorem change_detection_wavering :
    wavering.watcher.progress.token = "" ∧
      (wavering.run [.poll, .poll, .poll, .reset, .poll]).gets = 1 ∧
      exists heads gets,
        Given wavering (wavering.run [.poll, .poll, .poll, .reset, .poll]) heads gets ∧
        latestToken heads = "second" ∧
        (stateOf (Watcher.poll (wavering.run [.poll, .poll, .poll, .reset, .poll]))).gets = 2 := by
  have asked : (wavering.run [.poll, .poll, .poll, .reset, .poll]).gets = 1 := by decide +kernel
  have seen : (wavering.run [.poll, .poll, .poll, .reset, .poll]).watcher.progress.token =
      "second" := by decide +kernel
  rcases change_detection wavering rfl [.poll, .poll, .poll, .reset, .poll] with
    ⟨heads, gets, given, token, _, retrieves, _⟩
  have latest : latestToken heads = "second" := token.symm.trans seen
  rw [asked, latest] at retrieves
  refine ⟨rfl, asked, heads, gets, given, latest, retrieves.mpr ⟨?_, ?_, ?_⟩⟩
  · decide +kernel
  · exact ⟨{ tag := some "first" }, rfl, by decide⟩
  · rfl

end ObjectWatch
