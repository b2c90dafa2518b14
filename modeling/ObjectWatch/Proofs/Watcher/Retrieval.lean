import ObjectWatch.Proofs.Watcher.ChangeDetection
import ObjectWatch.Proofs.Watcher.Decoding

/-!
# Polls that retrieve content

A poll comes to its end before it has content, or it has content and opens it.  In the first case
nothing happens to what the watcher knows about decoding; in the second case everything depends on
the scene in which the content is opened, on the body, and on the encoding that was declared for it.
That scene is `supplied`, and it agrees with the scene before the poll in all that decides about
unpacking.

Which body the store would serve has no part in whether it is asked for one.
-/

namespace ObjectWatch

/-- What a watcher knows about decoding: its state and the two counters. -/
def Scene.decoding (scene : Scene) : DecodeState × Nat × Nat :=
  (scene.watcher.progress.decodeState, scene.watcher.tally.decoded,
    scene.watcher.tally.decodeFailures)

/-- Every body that the store has still to serve has a property. -/
def Remote.Serves (remote : Remote) (property : Body -> Prop) : Prop :=
  forall body encoding, (body, encoding) ∈ downloadsOf remote.gets -> property body

/-- The body that is served next has the property. -/
theorem Remote.Serves.next {remote : Remote} {property : Body -> Prop}
    (serves : remote.Serves property) {body : Body} {encoding : Option String}
    (brings : remote.get.1.download? = some (body, encoding)) : property body := by
  have first := downloadsOf_take_one remote.gets
  have brings : (Remote.next remote.gets).1.download? = some (body, encoding) := brings
  rw [brings] at first
  refine serves body encoding ?_
  rw [Remote.next_append remote.gets, downloadsOf_append, first]
  exact List.mem_append_left _ (List.mem_singleton.mpr rfl)

/-- What the store has still to serve after a move, it had to serve before. -/
theorem Remote.Serves.apply {scene : Scene} {property : Body -> Prop}
    (serves : scene.around.remote.Serves property) (move : Move) :
    (move.apply scene).around.remote.Serves property := by
  rcases move.account scene with ⟨heads, gets, given, _⟩
  intro body encoding member
  refine serves body encoding ?_
  rw [given.gets, downloadsOf_append]
  exact List.mem_append_right _ member

namespace Scene

/-- Content was retrieved for a new token, and it is about to be opened. -/
def supplied (token : String) (scene : Scene) : Scene :=
  ((scene.begun.probed.counted (Tally.recordProbe true)).committed token).retrieved.counted
    (Tally.recordRetrieval token true)

/-- A poll retrieves a body, which comes with a declared encoding. -/
def Retrieves (scene : Scene) (body : Body) (encoding : Option String) : Prop :=
  (stateOf (Watcher.poll scene)).gets = scene.gets + 1 ∧
    scene.getReply.download? = some (body, encoding)

/-- The first request of a poll gets the reply that is next when the poll begins. -/
theorem begun_headReply (scene : Scene) : scene.begun.headReply = scene.headReply := by
  unfold headReply
  rw [begun_remote]

/-- The wait and the probe take no reply to a request for content. -/
theorem begun_probed_getReply (scene : Scene) : scene.begun.probed.getReply = scene.getReply := by
  unfold getReply
  rw [probed_remote, begun_remote]
  rfl

/-! ## What is known about decoding, on the way to content -/

@[simp] theorem begun_decoding (scene : Scene) :
    scene.begun.decoding = scene.decoding := by
  unfold decoding
  rw [begun_watcher]
  rfl

@[simp] theorem probed_decoding (scene : Scene) :
    scene.probed.decoding = scene.decoding := by
  unfold decoding
  rw [probed_watcher]

@[simp] theorem committed_decoding (token : String) (scene : Scene) :
    (scene.committed token).decoding = scene.decoding := rfl

@[simp] theorem retrieved_decoding (scene : Scene) :
    scene.retrieved.decoding = scene.decoding := by
  unfold decoding
  rw [retrieved_watcher]

@[simp] theorem counted_recordProbe_decoding (success : Bool) (scene : Scene) :
    (scene.counted (Tally.recordProbe success)).decoding = scene.decoding := rfl

@[simp] theorem counted_recordUnchanged_decoding (scene : Scene) :
    (scene.counted Tally.recordUnchanged).decoding = scene.decoding := rfl

@[simp] theorem counted_recordRetrieval_decoding (token : String) (success : Bool) (scene : Scene) :
    (scene.counted (Tally.recordRetrieval token success)).decoding =
      scene.decoding := by
  cases success <;> rfl

@[simp] theorem note_decoding (notice : Notice) (scene : Scene) :
    (scene.note notice).decoding = scene.decoding := rfl

@[simp] theorem supplied_decoding (token : String) (scene : Scene) :
    (scene.supplied token).decoding = scene.decoding := by
  simp [supplied]

@[simp] theorem supplied_target (token : String) (scene : Scene) :
    (scene.supplied token).watcher.target = scene.watcher.target := by
  simp [supplied, begun_watcher]

@[simp] theorem supplied_token (token : String) (scene : Scene) :
    (scene.supplied token).watcher.progress.token = token := by
  simp [supplied, Progress.commit]

@[simp] theorem supplied_decodeState (token : String) (scene : Scene) :
    (scene.supplied token).watcher.progress.decodeState = scene.watcher.progress.decodeState :=
  congrArg Prod.fst (scene.supplied_decoding token)

/-- Whether content is going to be unpacked is known before the poll. -/
@[simp] theorem supplied_unpacks (token : String) (encoding : Option String) (scene : Scene) :
    (scene.supplied token).unpacks encoding = scene.unpacks encoding := by
  unfold unpacks Progress.mayDecode
  rw [supplied_decodeState, supplied_target]

theorem supplied_gets (token : String) (scene : Scene) :
    (scene.supplied token).gets = scene.gets + 1 := by
  rw [← scene.begun_gets]
  simp [supplied, gets, Call.isGet]

/-! ## With content and without -/

/-- A poll came to its end before it had content. -/
structure EndsEarly (scene : Scene) (result : PollEnd) : Prop where
  contentless : forall content after, result ≠ .ok (some content) after
  unaffected : (stateOf result).decoding = scene.decoding
  undecoded : forall failure after, result = .error failure after ->
    failure.report.watchKind? ≠ some .decode
  unserved : scene.getReply.download? = none ∨ (stateOf result).gets = scene.gets

end Scene

theorem Fault.isForeign_of_extraordinary {cause : Fault} (aborts : cause.isOrdinary = false) :
    cause.watchKind? = none := by
  cases cause <;> first | rfl | cases aborts

theorem Failure.foreign_watchKind? (cause : Fault) :
    (Failure.foreign cause).report.watchKind? = cause.watchKind? := by
  cases cause <;> rfl

namespace RetrievalCourse

variable {scene : Scene} {token : String} {result : PollEnd}

/-- A retrieval brings content that is opened, or it ends the poll. -/
theorem opening_or_endsEarly (course : RetrievalCourse scene token result) :
    (exists body encoding, scene.getReply.download? = some (body, encoding) ∧
      OpeningCourse (scene.retrieved.counted (Tally.recordRetrieval token true)) token body encoding
        result) ∨
      scene.EndsEarly result := by
  cases course with
  | stopped cancelled =>
      refine .inr ⟨fun _ _ impossible => (by cases impossible), rfl, ?_, .inr rfl⟩
      intro failure after failed
      cases failed
      exact fun impossible => (by cases impossible)
  | aborted cause free outcome aborts =>
      refine .inr ⟨fun _ _ impossible => (by cases impossible), by simp [stateOf], ?_,
        .inl (congrArg Except.toOption outcome)⟩
      intro failure after failed
      cases failed
      rw [Failure.foreign_watchKind?, Fault.isForeign_of_extraordinary aborts]
      exact fun impossible => (by cases impossible)
  | failed cause free outcome ordinary =>
      refine .inr ⟨fun _ _ impossible => (by cases impossible), by simp [stateOf], ?_,
        .inl (congrArg Except.toOption outcome)⟩
      intro failure after failed
      cases failed
      exact fun impossible => (by cases impossible)
  | delivered body encoding result free outcome course =>
      exact .inl ⟨body, encoding, congrArg Except.toOption outcome, course⟩

end RetrievalCourse

namespace Course

variable {scene : Scene} {result : PollEnd}

/-- A poll has content that is opened, or it comes to its end before. -/
theorem opening_or_endsEarly (course : Course scene result) :
    (exists metadata body encoding, scene.headReply.outcome = .ok metadata ∧
      scene.getReply.download? = some (body, encoding) ∧
      OpeningCourse (scene.supplied metadata.token) metadata.token body encoding result) ∨
      scene.EndsEarly result := by
  cases course with
  | notPrepared unprepared =>
      refine .inr ⟨fun _ _ impossible => (by cases impossible), rfl, ?_, .inr rfl⟩
      intro failure after failed
      cases failed
      exact fun impossible => (by cases impossible)
  | waitRefused prepared stranded =>
      refine .inr ⟨fun _ _ impossible => (by cases impossible), rfl, ?_, .inr scene.waitCalled_gets⟩
      intro failure after failed
      cases failed
      exact fun impossible => (by cases impossible)
  | stoppedWaiting prepared polled paced cancelled =>
      refine .inr ⟨fun _ _ impossible => (by cases impossible), ?_, ?_, .inr ?_⟩
      · simp [stateOf, Scene.waited_watcher, Scene.decoding]
      · intro failure after failed
        cases failed
        exact fun impossible => (by cases impossible)
      · simp [stateOf, Scene.gets, Call.isGet]
  | stoppedBefore prepared first cancelled =>
      refine .inr ⟨fun _ _ impossible => (by cases impossible), scene.begun_decoding, ?_,
        .inr scene.begun_gets⟩
      intro failure after failed
      cases failed
      exact fun impossible => (by cases impossible)
  | probing result prepared free course =>
      cases course with
      | aborted cause outcome aborts =>
          refine .inr ⟨fun _ _ impossible => (by cases impossible), by simp [stateOf], ?_, .inr ?_⟩
          · intro failure after failed
            cases failed
            rw [Failure.foreign_watchKind?, Fault.isForeign_of_extraordinary aborts]
            exact fun impossible => (by cases impossible)
          · rw [← scene.begun_gets]
            simp [stateOf, Scene.gets, Call.isGet]
      | failed cause outcome ordinary =>
          refine .inr ⟨fun _ _ impossible => (by cases impossible), by simp [stateOf], ?_, .inr ?_⟩
          · intro failure after failed
            cases failed
            exact fun impossible => (by cases impossible)
          · rw [← scene.begun_gets]
            simp [stateOf, Scene.gets, Call.isGet]
      | unchanged metadata outcome known =>
          refine .inr ⟨fun _ _ impossible => (by cases impossible), by simp [stateOf], ?_, .inr ?_⟩
          · exact fun _ _ impossible => (by cases impossible)
          · rw [← scene.begun_gets]
            simp [stateOf, Scene.gets, Call.isGet]
      | changed metadata result outcome new course =>
          rw [Scene.begun_headReply] at outcome
          have reply : ((scene.begun.probed.counted (Tally.recordProbe true)).committed
              metadata.token).getReply = scene.getReply := scene.begun_probed_getReply
          rcases course.opening_or_endsEarly with ⟨body, encoding, brings, course⟩ | early
          · rw [reply] at brings
            exact .inl ⟨metadata, body, encoding, outcome, brings, course⟩
          · refine .inr ⟨early.contentless, ?_, early.undecoded, ?_⟩
            · rw [early.unaffected]
              simp
            · have unserved := early.unserved
              rw [reply] at unserved
              refine unserved.imp id fun same => same.trans ?_
              rw [← scene.begun_gets]
              simp [Scene.gets, Call.isGet]

/-- A poll that retrieves a body opens it. -/
theorem opening (course : Course scene result) {body : Body} {encoding : Option String}
    (asked : (stateOf result).gets = scene.gets + 1)
    (brings : scene.getReply.download? = some (body, encoding)) :
    exists metadata, scene.headReply.outcome = .ok metadata ∧
      OpeningCourse (scene.supplied metadata.token) metadata.token body encoding result := by
  rcases course.opening_or_endsEarly with ⟨metadata, _, _, outcome, same, course⟩ | early
  · rw [brings] at same
    cases same
    exact ⟨metadata, outcome, course⟩
  · rcases early.unserved with nothing | same
    · rw [brings] at nothing
      cases nothing
    · omega

/-- A poll asks for content exactly when it gets to its probe and that brings a change. -/
theorem asks_iff (course : Course scene result) :
    (stateOf result).gets = scene.gets + 1 ↔
      scene.watcher.isPrepared = true ∧ scene.isHeldBack = false ∧ scene.BringsChange := by
  cases course with
  | notPrepared unprepared =>
      refine ⟨fun asked => ?_, fun both => ?_⟩
      · exact absurd asked (Nat.ne_of_lt (Nat.lt_succ_self _))
      · exact absurd both.1 (by rw [unprepared]; exact Bool.false_ne_true)
  | waitRefused prepared stranded =>
      refine ⟨fun asked => ?_, fun both => ?_⟩
      · rw [stateOf, scene.waitCalled_gets] at asked
        omega
      · cases stranded.symm.trans (Scene.isStranded_of_free both.2.1)
  | stoppedWaiting prepared polled paced cancelled =>
      have began := Scene.begun_isCancelled_of_waited polled cancelled
      refine ⟨fun asked => ?_, fun both => ?_⟩
      · simp [stateOf, Scene.gets, Call.isGet] at asked
      · cases began.symm.trans (Scene.begun_free both.2.1)
  | stoppedBefore prepared first cancelled =>
      have began := (Scene.begun_isCancelled_of_first first).trans cancelled
      refine ⟨fun asked => ?_, fun both => ?_⟩
      · rw [stateOf, scene.begun_gets] at asked
        omega
      · cases began.symm.trans (Scene.begun_free both.2.1)
  | probing result prepared free course =>
      have getsEq := course.gets_eq (Scene.begun_free free)
      rw [scene.begun_gets, scene.begun_bringsChange] at getsEq
      rcases getsEq with ⟨brings, getsEq⟩ | ⟨brings, getsEq⟩
      · exact ⟨fun _ => ⟨prepared, free, brings⟩, fun _ => getsEq⟩
      · exact ⟨fun asked => by omega, fun both => absurd both.2.2 brings⟩

end Course

namespace Scene

/-- Content that a poll returns was retrieved, for a token that was new. -/
theorem retrieves_of_poll {scene after : Scene} {content : Content}
    (polled : Watcher.poll scene = .ok (some content) after) :
    exists metadata body encoding, scene.headReply.outcome = .ok metadata ∧
      metadata.token ≠ scene.watcher.progress.token ∧ scene.Retrieves body encoding ∧
      OpeningCourse (scene.supplied metadata.token) metadata.token body encoding
        (.ok (some content) after) := by
  have course := poll_course scene
  rw [polled] at course
  rcases course.opening_or_endsEarly with ⟨metadata, body, encoding, outcome, brings, opening⟩ | early
  · have gets : after.gets = scene.gets + 1 := by
      have calls : after.calls = (scene.supplied metadata.token).calls := opening.calls
      rw [← scene.supplied_gets metadata.token]
      exact congrArg (List.countP Call.isGet) calls
    rcases course.asks_iff.mp gets with ⟨_, _, ⟨other, same, new⟩, _⟩
    rw [outcome] at same
    cases same
    refine ⟨metadata, body, encoding, outcome, new, ⟨?_, brings⟩, opening⟩
    rw [polled]
    exact gets
  · exact absurd rfl (early.contentless content after)

/-- The scene in which another body is served to the next request for content. -/
def serving (other : Body) (scene : Scene) : Scene :=
  { scene with
    around.remote.gets :=
      match scene.around.remote.gets with
      | [] => []
      | reply :: replies =>
          { reply with outcome := reply.outcome.map fun delivery =>
              { delivery with body := delivery.body.map fun _ => other } } :: replies }

/-- Another body is retrieved just as the first would be, with the same encoding. -/
theorem Retrieves.serving {scene : Scene} {body : Body} {encoding : Option String}
    (retrieves : scene.Retrieves body encoding) (other : Body) :
    (scene.serving other).Retrieves other encoding := by
  rcases retrieves with ⟨asked, brings⟩
  refine ⟨?_, ?_⟩
  · have alike := (poll_course scene).asks_iff.mp asked
    refine (poll_course (scene.serving other)).asks_iff.mpr ⟨alike.1, ?_, alike.2.2⟩
    have pause : (scene.serving other).begun.watcher.pause = scene.begun.watcher.pause := by
      rw [begun_watcher, begun_watcher, waited_watcher, waited_watcher]
      rfl
    unfold isHeldBack
    rw [pause]
    exact alike.2.1
  · unfold getReply Remote.get at brings ⊢
    unfold Scene.serving
    rcases scene with ⟨watcher, ⟨⟨heads, gets⟩, clock, journal, stopper, nextWaitCancelled, running⟩⟩
    cases gets with
    | nil => cases brings
    | cons reply replies =>
        rcases reply with ⟨interruption, outcome⟩
        unfold Remote.next Reply.download? at brings ⊢
        cases outcome with
        | error cause => cases brings
        | ok delivery =>
            rcases delivery with ⟨served, declared⟩
            cases served with
            | none => cases brings
            | some served =>
                cases brings
                rfl

end Scene

end ObjectWatch
