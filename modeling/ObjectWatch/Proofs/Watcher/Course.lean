import ObjectWatch.Proofs.Watcher.Interruption

/-!
# The course of a poll

A poll can end in a dozen ways, and each of them is one path through its stages: it waits, probes,
compares the token, commits it, looks again whether it was cancelled, retrieves, and opens what it
retrieved.  `Course` lists these paths together with the scene that each of them ends in, and
`poll_course` says that every poll takes one of them.  A poll whose wait cannot begin goes no further
than that.  What is to be shown of all polls is shown of each path, without running the poll again.

The scenes in between are named for what has happened so far: `waitCalled`, `waited`, `begun`, `probed`,
`committed` and `retrieved`.
-/

namespace ObjectWatch

open Watcher

namespace Scene

/-! ## The scenes between the stages -/

/-- Something was counted. -/
def counted (change : Tally -> Tally) (scene : Scene) : Scene :=
  { scene with watcher.tally := change scene.watcher.tally }

/-- Something was remembered. -/
def remembered (change : Progress -> Progress) (scene : Scene) : Scene :=
  { scene with watcher.progress := change scene.watcher.progress }

/-- The wait was asked for. -/
def waitCalled (scene : Scene) : Scene := scene.called (.wait scene.watcher.interval)

/-- The wait is over. -/
def waited (scene : Scene) : Scene := scene.waitCalled.interruptWait

/-- Whether the next poll has to wait and cannot. -/
def isStranded (scene : Scene) : Bool := scene.watcher.progress.hasPolled && scene.refusesWait

/-- The poll is about to send its first request, unless it was cancelled. -/
def begun (scene : Scene) : Scene :=
  (if scene.watcher.progress.hasPolled then scene.waited else scene).remembered Progress.markPolled

/-- Whether the next poll is held back before its first request: it cannot wait, or it is cancelled. -/
def isHeldBack (scene : Scene) : Bool := scene.isStranded || scene.begun.watcher.pause.isCancelled

/-- The reply that the next request for metadata gets. -/
def headReply (scene : Scene) : Reply Metadata := scene.around.remote.head.1

/-- The reply that the next request for content gets. -/
def getReply (scene : Scene) : Reply Delivery := scene.around.remote.get.1

/-- A request for metadata was answered. -/
def probed (scene : Scene) : Scene :=
  let asked := scene.called (.head scene.watcher.target.bucket scene.watcher.target.key)
  { asked with around.remote := scene.around.remote.head.2 }.interrupt scene.headReply.interruption

/-- A new token was remembered. -/
def committed (token : String) (scene : Scene) : Scene :=
  (scene.remembered (·.commit token)).note
    (.changed scene.watcher.target.key token scene.watcher.progress.token)

/-- A request for content was answered. -/
def retrieved (scene : Scene) : Scene :=
  let asked := scene.called (.get scene.watcher.target.bucket scene.watcher.target.key)
  { asked with around.remote := scene.around.remote.get.2 }.interrupt scene.getReply.interruption

/-- What a request for content brings: a body with the encoding that was declared for it. -/
def fetched (scene : Scene) : Except Fault (Body × Option String) :=
  scene.getReply.outcome.bind fun delivery => delivery.content.map (·, delivery.encoding)

/-- Decoding was given up, and the failure was counted. -/
def givenUp (cause : Fault) (scene : Scene) : Scene :=
  let noted := match Notice.ofDisabling? scene.watcher.progress with
    | some notice => scene.note notice
    | none => scene
  ((noted.remembered Progress.disableDecoding).counted (Tally.recordDecode false)).note
    (.decodeFailed scene.watcher.target.key cause)

/-- Whether content with a declared encoding is going to be unpacked. -/
def unpacks (encoding : Option String) (scene : Scene) : Bool :=
  scene.watcher.progress.mayDecode && expectsCompressed scene.watcher.target.key &&
    !isTransportCompressed encoding

/-! ## The parts of these scenes -/

@[simp] theorem counted_watcher (change : Tally -> Tally) (scene : Scene) :
    (scene.counted change).watcher =
      { scene.watcher with tally := change scene.watcher.tally } := rfl

@[simp] theorem counted_around (change : Tally -> Tally) (scene : Scene) :
    (scene.counted change).around = scene.around := rfl

@[simp] theorem counted_calls (change : Tally -> Tally) (scene : Scene) :
    (scene.counted change).calls = scene.calls := rfl

@[simp] theorem remembered_watcher (change : Progress -> Progress) (scene : Scene) :
    (scene.remembered change).watcher =
      { scene.watcher with progress := change scene.watcher.progress } := rfl

@[simp] theorem remembered_around (change : Progress -> Progress) (scene : Scene) :
    (scene.remembered change).around = scene.around := rfl

@[simp] theorem remembered_calls (change : Progress -> Progress) (scene : Scene) :
    (scene.remembered change).calls = scene.calls := rfl

@[simp] theorem waitCalled_watcher (scene : Scene) : scene.waitCalled.watcher = scene.watcher := rfl

@[simp] theorem waitCalled_calls (scene : Scene) :
    scene.waitCalled.calls = scene.calls ++ [.wait scene.watcher.interval] :=
  called_calls _ scene

theorem waited_watcher (scene : Scene) :
    scene.waited.watcher =
      { scene.watcher with
        pause := if scene.around.nextWaitCancelled ||
            (scene.around.remote.isSilent && scene.around.stopper != .absent)
          then scene.watcher.pause.cancel else scene.watcher.pause } :=
  interruptWait_watcher _

@[simp] theorem waited_calls (scene : Scene) :
    scene.waited.calls = scene.calls ++ [.wait scene.watcher.interval] :=
  (interruptWait_calls _).trans scene.waitCalled_calls

/-- The first poll does not wait. -/
theorem isStranded_of_first {scene : Scene} (first : scene.watcher.progress.hasPolled = false) :
    scene.isStranded = false := by
  rw [isStranded, first, Bool.false_and]

/-- Nothing is measured for a pause that was cancelled. -/
theorem isStranded_of_cancelled {scene : Scene} (cancelled : scene.watcher.pause.isCancelled = true) :
    scene.isStranded = false := by
  rw [isStranded, refusesWait, Pause.isRefused, cancelled, Bool.not_true, Bool.false_and, Bool.and_false]

/-- A watcher is stranded if it polled before, was not cancelled, and has an interval that is too long. -/
theorem isStranded_iff {scene : Scene} :
    scene.isStranded = true ↔
      scene.watcher.progress.hasPolled = true ∧ scene.watcher.pause.isCancelled = false ∧
        scene.around.clock.refuses scene.watcher.interval = true := by
  rw [isStranded, refusesWait, Pause.isRefused, Bool.and_eq_true, Bool.and_eq_true, Bool.not_eq_true']

/-- With an interval that can be measured no watcher is stranded. -/
theorem isStranded_of_measured {scene : Scene}
    (measured : scene.around.clock.refuses scene.watcher.interval = false) :
    scene.isStranded = false := by
  rw [isStranded, refusesWait, Pause.isRefused, measured, Bool.and_false, Bool.and_false]

/-- A wait changes nothing that a watcher remembers, and cancels its pause at most. -/
theorem begun_watcher (scene : Scene) :
    scene.begun.watcher =
      { scene.watcher with
        pause := if scene.watcher.progress.hasPolled then scene.waited.watcher.pause
          else scene.watcher.pause
        progress := scene.watcher.progress.markPolled } := by
  unfold begun
  cases scene.watcher.progress.hasPolled with
  | true => simp [waited_watcher]
  | false => simp

@[simp] theorem begun_token (scene : Scene) :
    scene.begun.watcher.progress.token = scene.watcher.progress.token := by
  rw [begun_watcher]
  rfl

@[simp] theorem begun_remote (scene : Scene) :
    scene.begun.around.remote = scene.around.remote := by
  unfold begun
  cases scene.watcher.progress.hasPolled with
  | true => exact interruptWait_remote _
  | false => rfl

@[simp] theorem begun_stopper (scene : Scene) :
    scene.begun.around.stopper = scene.around.stopper := by
  unfold begun
  cases scene.watcher.progress.hasPolled with
  | true => exact interruptWait_stopper _
  | false => rfl

/-- A wait that ended because it was cancelled leaves the poll cancelled. -/
theorem begun_isCancelled_of_waited {scene : Scene} (polled : scene.watcher.progress.hasPolled = true)
    (cancelled : scene.waited.watcher.pause.isCancelled = true) :
    scene.begun.watcher.pause.isCancelled = true := by
  rw [begun_watcher]
  dsimp only
  rw [if_pos polled, cancelled]

/-- The first poll is as little cancelled as its watcher was. -/
theorem begun_isCancelled_of_first {scene : Scene} (first : scene.watcher.progress.hasPolled = false) :
    scene.begun.watcher.pause.isCancelled = scene.watcher.pause.isCancelled := by
  rw [begun_watcher]
  dsimp only
  rw [if_neg (Bool.eq_false_iff.mp first)]

/-- A poll that is not held back is not cancelled before its first request. -/
theorem begun_free {scene : Scene} (free : scene.isHeldBack = false) :
    scene.begun.watcher.pause.isCancelled = false :=
  (Bool.or_eq_false_iff.mp free).2

/-- A poll that is not held back can wait. -/
theorem isStranded_of_free {scene : Scene} (free : scene.isHeldBack = false) :
    scene.isStranded = false :=
  (Bool.or_eq_false_iff.mp free).1

theorem begun_calls (scene : Scene) :
    scene.begun.calls = scene.calls ++
      if scene.watcher.progress.hasPolled then [.wait scene.watcher.interval] else [] := by
  unfold begun
  cases scene.watcher.progress.hasPolled with
  | true => exact scene.waited_calls
  | false => simp

/-- While a reply is awaited the watcher stays as it is, but for its pause. -/
@[simp] theorem probed_watcher (scene : Scene) :
    scene.probed.watcher =
      { scene.watcher with
        pause := if scene.headReply.interruption.cancelsIn scene.around.stopper
          then scene.watcher.pause.cancel else scene.watcher.pause } :=
  interrupt_watcher _ _

@[simp] theorem probed_remote (scene : Scene) :
    scene.probed.around.remote = scene.around.remote.head.2 :=
  interrupt_remote _ _

@[simp] theorem probed_stopper (scene : Scene) :
    scene.probed.around.stopper = scene.around.stopper :=
  interrupt_stopper _ _

@[simp] theorem probed_calls (scene : Scene) :
    scene.probed.calls =
      scene.calls ++ [.head scene.watcher.target.bucket scene.watcher.target.key] :=
  (interrupt_calls _ _).trans (called_calls _ scene)

@[simp] theorem committed_watcher (token : String) (scene : Scene) :
    (scene.committed token).watcher =
      { scene.watcher with progress := scene.watcher.progress.commit token } := rfl

@[simp] theorem committed_remote (token : String) (scene : Scene) :
    (scene.committed token).around.remote = scene.around.remote := rfl

@[simp] theorem committed_calls (token : String) (scene : Scene) :
    (scene.committed token).calls = scene.calls :=
  note_calls _ (scene.remembered (·.commit token))

/-- While content is awaited the watcher stays as it is, but for its pause. -/
@[simp] theorem retrieved_watcher (scene : Scene) :
    scene.retrieved.watcher =
      { scene.watcher with
        pause := if scene.getReply.interruption.cancelsIn scene.around.stopper
          then scene.watcher.pause.cancel else scene.watcher.pause } :=
  interrupt_watcher _ _

@[simp] theorem retrieved_remote (scene : Scene) :
    scene.retrieved.around.remote = scene.around.remote.get.2 :=
  interrupt_remote _ _

@[simp] theorem retrieved_calls (scene : Scene) :
    scene.retrieved.calls =
      scene.calls ++ [.get scene.watcher.target.bucket scene.watcher.target.key] :=
  (interrupt_calls _ _).trans (called_calls _ scene)

theorem givenUp_watcher (cause : Fault) (scene : Scene) :
    (scene.givenUp cause).watcher =
      { scene.watcher with
        progress := scene.watcher.progress.disableDecoding
        tally := Tally.recordDecode false scene.watcher.tally } := by
  unfold givenUp
  cases Notice.ofDisabling? scene.watcher.progress <;> rfl

@[simp] theorem givenUp_remote (cause : Fault) (scene : Scene) :
    (scene.givenUp cause).around.remote = scene.around.remote := by
  unfold givenUp
  cases Notice.ofDisabling? scene.watcher.progress <;> rfl

@[simp] theorem givenUp_calls (cause : Fault) (scene : Scene) :
    (scene.givenUp cause).calls = scene.calls := by
  unfold givenUp
  cases Notice.ofDisabling? scene.watcher.progress <;> simp

end Scene

/-! ## The paths of a poll -/

/-- How the end of a poll looks. -/
abbrev PollEnd := EStateM.Result Failure Scene (Option Content)

/-- The paths from retrieved content on. -/
inductive OpeningCourse (scene : Scene) (token : String) (body : Body) (encoding : Option String) :
    PollEnd -> Prop where
  | raw (asIs : scene.unpacks encoding = false) :
      OpeningCourse scene token body encoding (.ok (some (.raw body)) scene)
  | unpacked (stream : Gzip.Stream) (unpacks : scene.unpacks encoding = true)
      (opened : Gzip.openBody body = .ok stream) :
      OpeningCourse scene token body encoding
        (.ok (some (.unpacked stream))
          ((scene.remembered Progress.markDecoded).counted (Tally.recordDecode true)))
  | broken (cause : Fault) (left : Body) (unpacks : scene.unpacks encoding = true)
      (failed : Gzip.openBody body = .error (cause, left))
      (unrelated : cause.spoilsOpening = false) :
      OpeningCourse scene token body encoding (.error (.opening cause left) scene)
  | notGzip (cause : Fault) (left : Body) (unpacks : scene.unpacks encoding = true)
      (failed : Gzip.openBody body = .error (cause, left)) (spoils : cause.spoilsOpening = true) :
      OpeningCourse scene token body encoding
        (.error (.decode scene.watcher.target.key token cause left) (scene.givenUp cause))

/-- The paths from a committed token on. -/
inductive RetrievalCourse (scene : Scene) (token : String) : PollEnd -> Prop where
  | stopped (cancelled : scene.watcher.pause.isCancelled = true) :
      RetrievalCourse scene token (.error (.cancelled false) scene)
  | aborted (cause : Fault) (free : scene.watcher.pause.isCancelled = false)
      (outcome : scene.fetched = .error cause) (aborts : cause.isOrdinary = false) :
      RetrievalCourse scene token (.error (.foreign cause) scene.retrieved)
  | failed (cause : Fault) (free : scene.watcher.pause.isCancelled = false)
      (outcome : scene.fetched = .error cause) (ordinary : cause.isOrdinary = true) :
      RetrievalCourse scene token
        (.error (.retrieval scene.watcher.target.bucket scene.watcher.target.key token cause)
          ((scene.retrieved.counted (Tally.recordRetrieval token false)).note
            (.retrievalFailed scene.watcher.target.bucket scene.watcher.target.key cause)))
  | delivered (body : Body) (encoding : Option String) (result : PollEnd)
      (free : scene.watcher.pause.isCancelled = false)
      (outcome : scene.fetched = .ok (body, encoding))
      (course : OpeningCourse (scene.retrieved.counted (Tally.recordRetrieval token true)) token body
        encoding result) :
      RetrievalCourse scene token result

/-- The paths from the first request on. -/
inductive ProbeCourse (scene : Scene) : PollEnd -> Prop where
  | aborted (cause : Fault) (outcome : scene.headReply.outcome = .error cause)
      (aborts : cause.isOrdinary = false) :
      ProbeCourse scene (.error (.foreign cause) scene.probed)
  | failed (cause : Fault) (outcome : scene.headReply.outcome = .error cause)
      (ordinary : cause.isOrdinary = true) :
      ProbeCourse scene
        (.error (.probe scene.watcher.target.bucket scene.watcher.target.key cause)
          ((scene.probed.counted (Tally.recordProbe false)).note
            (.probeFailed scene.watcher.target.bucket scene.watcher.target.key cause)))
  | unchanged (metadata : Metadata) (outcome : scene.headReply.outcome = .ok metadata)
      (known : metadata.token = scene.watcher.progress.token) :
      ProbeCourse scene
        (.ok none (((scene.probed.counted (Tally.recordProbe true)).counted
          Tally.recordUnchanged).note (.unchanged scene.watcher.target.key metadata.token)))
  | changed (metadata : Metadata) (result : PollEnd)
      (outcome : scene.headReply.outcome = .ok metadata)
      (new : metadata.token ≠ scene.watcher.progress.token)
      (course : RetrievalCourse
        ((scene.probed.counted (Tally.recordProbe true)).committed metadata.token) metadata.token
        result) :
      ProbeCourse scene result

/-- The paths of a poll. -/
inductive Course (scene : Scene) : PollEnd -> Prop where
  | notPrepared (unprepared : scene.watcher.isPrepared = false) :
      Course scene (.error .watcherNotReady scene)
  | waitRefused (prepared : scene.watcher.isPrepared = true) (stranded : scene.isStranded = true) :
      Course scene (.error (.foreign Clock.overflow) scene.waitCalled)
  | stoppedWaiting (prepared : scene.watcher.isPrepared = true)
      (polled : scene.watcher.progress.hasPolled = true) (paced : scene.isStranded = false)
      (cancelled : scene.waited.watcher.pause.isCancelled = true) :
      Course scene (.error (.cancelled true) scene.waited)
  | stoppedBefore (prepared : scene.watcher.isPrepared = true)
      (first : scene.watcher.progress.hasPolled = false)
      (cancelled : scene.watcher.pause.isCancelled = true) :
      Course scene (.error (.cancelled false) scene.begun)
  | probing (result : PollEnd) (prepared : scene.watcher.isPrepared = true)
      (free : scene.isHeldBack = false)
      (course : ProbeCourse scene.begun result) :
      Course scene result

/-! ## The stages, one by one -/

theorem wait_apply (scene : Scene) :
    Watcher.wait scene =
      if scene.refusesWait then .error (.foreign Clock.overflow) scene.waitCalled
      else .ok scene.waited.watcher.pause.isCancelled scene.waited := by
  unfold Watcher.wait
  rw [bind_apply, get_apply]
  have same : (scene.called (.wait scene.watcher.interval)).refusesWait = scene.refusesWait := rfl
  simp only [bind_apply, modify_apply, get_apply, same]
  cases scene.refusesWait with
  | true => rfl
  | false => rfl

theorem pace_of_stranded {scene : Scene} (stranded : scene.isStranded = true) :
    pace scene = .error (.foreign Clock.overflow) scene.waitCalled := by
  rcases Bool.and_eq_true_iff.mp stranded with ⟨polled, refuses⟩
  have fails := wait_apply scene
  rw [refuses, if_pos rfl] at fails
  unfold pace
  simp only [bind_apply, get_apply, polled, if_true, fails]

theorem pace_of_waiting {scene : Scene} (polled : scene.watcher.progress.hasPolled = true)
    (paced : scene.isStranded = false) :
    pace scene =
      if scene.waited.watcher.pause.isCancelled then .error (.cancelled true) scene.waited
      else .ok () scene.begun := by
  have accepts : scene.refusesWait = false := by
    rw [Scene.isStranded, polled, Bool.true_and] at paced
    exact paced
  have waits := wait_apply scene
  rw [accepts, if_neg Bool.false_ne_true] at waits
  unfold pace
  simp only [bind_apply, get_apply, polled, if_true, waits, Scene.begun]
  by_cases cancelled : scene.waited.watcher.pause.isCancelled = true
  · simp [cancelled, bind_apply, throw_apply]
  · simp [cancelled, bind_apply, pure_apply, remember, update, modify_apply, checkCancelled,
      get_apply, Scene.remembered]

theorem pace_of_first {scene : Scene} (first : scene.watcher.progress.hasPolled = false) :
    pace scene =
      if scene.watcher.pause.isCancelled then .error (.cancelled false) scene.begun
      else .ok () scene.begun := by
  unfold pace
  simp only [bind_apply, get_apply, first, Bool.false_eq_true, if_false, Scene.begun]
  by_cases cancelled : scene.watcher.pause.isCancelled = true
  · simp [cancelled, bind_apply, remember, update, modify_apply, checkCancelled, get_apply,
      Scene.remembered, throw_apply]
  · simp [cancelled, bind_apply, pure_apply, remember, update, modify_apply, checkCancelled,
      get_apply, Scene.remembered]

theorem awaitHead_apply (scene : Scene) :
    awaitHead scene =
      .ok scene.headReply.outcome
        ({ scene with around.remote := scene.around.remote.head.2 }.interrupt
          scene.headReply.interruption) := rfl

theorem awaitGet_apply (scene : Scene) :
    awaitGet scene =
      .ok scene.getReply.outcome
        ({ scene with around.remote := scene.around.remote.get.2 }.interrupt
          scene.getReply.interruption) := rfl

theorem awaitHead_called (scene : Scene) :
    awaitHead (scene.called (.head scene.watcher.target.bucket scene.watcher.target.key)) =
      .ok scene.headReply.outcome scene.probed := rfl

theorem awaitGet_called (scene : Scene) :
    awaitGet (scene.called (.get scene.watcher.target.bucket scene.watcher.target.key)) =
      .ok scene.getReply.outcome scene.retrieved := rfl

theorem probe_of_ok {scene : Scene} {metadata : Metadata}
    (outcome : scene.headReply.outcome = .ok metadata) :
    probe scene.watcher.target.bucket scene.watcher.target.key scene =
      .ok metadata (scene.probed.counted (Tally.recordProbe true)) := by
  unfold probe
  rw [bind_apply, modify_apply]
  simp only
  rw [bind_of_ok (awaitHead_called scene), outcome]
  rfl

theorem probe_of_error {scene : Scene} {cause : Fault}
    (outcome : scene.headReply.outcome = .error cause) :
    probe scene.watcher.target.bucket scene.watcher.target.key scene =
      if cause.isOrdinary then
        .error (.probe scene.watcher.target.bucket scene.watcher.target.key cause)
          ((scene.probed.counted (Tally.recordProbe false)).note
            (.probeFailed scene.watcher.target.bucket scene.watcher.target.key cause))
      else .error (.foreign cause) scene.probed := by
  unfold probe
  rw [bind_apply, modify_apply]
  simp only
  rw [bind_of_ok (awaitHead_called scene), outcome]
  cases ordinary : cause.isOrdinary with
  | true =>
      simp only [ordinary, Bool.not_true, Bool.false_eq_true, if_false, if_true]
      rfl
  | false =>
      simp only [ordinary, Bool.not_false, if_true, Bool.false_eq_true, if_false]
      rfl

theorem retrieve_of_ok {scene : Scene} {body : Body} {encoding : Option String} (token : String)
    (outcome : scene.fetched = .ok (body, encoding)) :
    retrieve scene.watcher.target.bucket scene.watcher.target.key token scene =
      .ok (body, encoding) (scene.retrieved.counted (Tally.recordRetrieval token true)) := by
  unfold retrieve
  rw [bind_apply, modify_apply]
  simp only
  unfold Scene.fetched at outcome
  rw [bind_of_ok (awaitGet_called scene), outcome]
  rfl

theorem retrieve_of_error {scene : Scene} {cause : Fault} (token : String)
    (outcome : scene.fetched = .error cause) :
    retrieve scene.watcher.target.bucket scene.watcher.target.key token scene =
      if cause.isOrdinary then
        .error (.retrieval scene.watcher.target.bucket scene.watcher.target.key token cause)
          ((scene.retrieved.counted (Tally.recordRetrieval token false)).note
            (.retrievalFailed scene.watcher.target.bucket scene.watcher.target.key cause))
      else .error (.foreign cause) scene.retrieved := by
  unfold retrieve
  rw [bind_apply, modify_apply]
  simp only
  unfold Scene.fetched at outcome
  rw [bind_of_ok (awaitGet_called scene), outcome]
  cases ordinary : cause.isOrdinary with
  | true =>
      simp only [ordinary, Bool.not_true, Bool.false_eq_true, if_false, if_true]
      rfl
  | false =>
      simp only [ordinary, Bool.not_false, if_true, Bool.false_eq_true, if_false]
      rfl

theorem unpack_of_ok {scene : Scene} {body : Body} {stream : Gzip.Stream} (token : String)
    (opened : Gzip.openBody body = .ok stream) :
    unpack scene.watcher.target.key token body scene =
      .ok (.unpacked stream)
        ((scene.remembered Progress.markDecoded).counted (Tally.recordDecode true)) := by
  unfold unpack
  rw [opened]
  rfl

theorem unpack_of_error {scene : Scene} {body left : Body} {cause : Fault} (token : String)
    (failed : Gzip.openBody body = .error (cause, left)) :
    unpack scene.watcher.target.key token body scene =
      if cause.spoilsOpening then
        .error (.decode scene.watcher.target.key token cause left) (scene.givenUp cause)
      else .error (.opening cause left) scene := by
  unfold unpack
  rw [failed]
  cases spoils : cause.spoilsOpening with
  | true =>
      simp only [spoils, Bool.not_true, Bool.false_eq_true, if_false, if_true]
      unfold Scene.givenUp
      cases disabling : Notice.ofDisabling? scene.watcher.progress with
      | none =>
          simp only [bind_apply, disableDecoding, get_apply, disabling]
          rfl
      | some notice =>
          simp only [bind_apply, disableDecoding, get_apply, disabling]
          rfl
  | false =>
      simp only [spoils, Bool.not_false, if_true, Bool.false_eq_true, if_false]
      rfl

theorem commit_apply (scene : Scene) (token : String) :
    commit scene.watcher.target.key token scene = .ok () (scene.committed token) := rfl

theorem checkCancelled_apply (scene : Scene) :
    checkCancelled scene =
      if scene.watcher.pause.isCancelled then .error (.cancelled false) scene
      else .ok () scene := by
  unfold checkCancelled
  rw [bind_apply, get_apply]
  cases cancelled : scene.watcher.pause.isCancelled with
  | true => simp only [cancelled, if_true, throw_apply]
  | false => simp only [cancelled, Bool.false_eq_true, if_false, pure_apply]

/-! ## Every poll takes one of the paths

The stages are taken from the last one back, each together with all that comes after it. -/

theorem opening_course (scene : Scene) (token : String) (body : Body) (encoding : Option String) :
    OpeningCourse scene token body encoding
      ((do
        if (<- get).watcher.progress.mayDecode && expectsCompressed scene.watcher.target.key &&
            !isTransportCompressed encoding then
          return some (<- unpack scene.watcher.target.key token body)
        return some (.raw body) : Act (Option Content)) scene) := by
  rw [bind_apply, get_apply]
  simp only
  cases unpacks : scene.unpacks encoding with
  | false =>
      have skipped := unpacks
      unfold Scene.unpacks at skipped
      rw [if_neg (by rw [skipped]; exact Bool.false_ne_true)]
      exact .raw unpacks
  | true =>
      have taken := unpacks
      unfold Scene.unpacks at taken
      rw [if_pos taken]
      cases opened : Gzip.openBody body with
      | ok stream =>
          rw [bind_of_ok (unpack_of_ok token opened)]
          exact .unpacked stream unpacks opened
      | error failure =>
          rcases failure with ⟨cause, left⟩
          have failed := @unpack_of_error scene body left cause token opened
          cases spoils : cause.spoilsOpening with
          | true =>
              rw [spoils, if_pos rfl] at failed
              rw [bind_of_error failed]
              exact .notGzip cause left unpacks opened spoils
          | false =>
              rw [spoils, if_neg Bool.false_ne_true] at failed
              rw [bind_of_error failed]
              exact .broken cause left unpacks opened spoils

theorem retrieval_course (scene : Scene) (token : String) :
    RetrievalCourse scene token
      ((do
        checkCancelled
        let (body, encoding) <-
          retrieve scene.watcher.target.bucket scene.watcher.target.key token
        if (<- get).watcher.progress.mayDecode && expectsCompressed scene.watcher.target.key &&
            !isTransportCompressed encoding then
          return some (<- unpack scene.watcher.target.key token body)
        return some (.raw body) : Act (Option Content)) scene) := by
  have checked := checkCancelled_apply scene
  cases cancelled : scene.watcher.pause.isCancelled with
  | true =>
      rw [cancelled, if_pos rfl] at checked
      rw [bind_of_error checked]
      exact .stopped cancelled
  | false =>
      rw [cancelled, if_neg Bool.false_ne_true] at checked
      rw [bind_of_ok checked]
      cases outcome : scene.fetched with
      | ok content =>
          rcases content with ⟨body, encoding⟩
          rw [bind_of_ok (retrieve_of_ok token outcome)]
          have course := opening_course
            (scene.retrieved.counted (Tally.recordRetrieval token true)) token body encoding
          rw [Scene.counted_watcher, Scene.retrieved_watcher] at course
          exact .delivered body encoding _ cancelled outcome course
      | error cause =>
          have failed := retrieve_of_error token outcome
          cases ordinary : cause.isOrdinary with
          | true =>
              rw [ordinary, if_pos rfl] at failed
              rw [bind_of_error failed]
              exact .failed cause cancelled outcome ordinary
          | false =>
              rw [ordinary, if_neg Bool.false_ne_true] at failed
              rw [bind_of_error failed]
              exact .aborted cause cancelled outcome ordinary

theorem probe_course (scene : Scene) :
    ProbeCourse scene
      ((do
        let token := (<- probe scene.watcher.target.bucket scene.watcher.target.key).token
        if (<- get).watcher.progress.knows token then
          count Tally.recordUnchanged
          note (.unchanged scene.watcher.target.key token)
          return none
        commit scene.watcher.target.key token
        checkCancelled
        let (body, encoding) <-
          retrieve scene.watcher.target.bucket scene.watcher.target.key token
        if (<- get).watcher.progress.mayDecode && expectsCompressed scene.watcher.target.key &&
            !isTransportCompressed encoding then
          return some (<- unpack scene.watcher.target.key token body)
        return some (.raw body) : Act (Option Content)) scene) := by
  cases outcome : scene.headReply.outcome with
  | ok metadata =>
      rw [bind_of_ok (probe_of_ok outcome), bind_apply, get_apply]
      -- the watcher was only counted on and perhaps cancelled since the poll began
      have same : (scene.probed.counted (Tally.recordProbe true)).watcher.progress =
          scene.watcher.progress := by
        rw [Scene.counted_watcher, Scene.probed_watcher]
      have target : (scene.probed.counted (Tally.recordProbe true)).watcher.target =
          scene.watcher.target := by
        rw [Scene.counted_watcher, Scene.probed_watcher]
      simp only [same, Progress.knows, beq_iff_eq]
      by_cases known : metadata.token = scene.watcher.progress.token
      · rw [if_pos known]
        exact .unchanged metadata outcome known
      · rw [if_neg known]
        have committed :=
          commit_apply (scene.probed.counted (Tally.recordProbe true)) metadata.token
        rw [target] at committed
        rw [bind_of_ok committed]
        have course := retrieval_course
          ((scene.probed.counted (Tally.recordProbe true)).committed metadata.token)
          metadata.token
        rw [Scene.committed_watcher, target] at course
        exact .changed metadata _ outcome known course
  | error cause =>
      have failed := probe_of_error outcome
      cases ordinary : cause.isOrdinary with
      | true =>
          rw [ordinary, if_pos rfl] at failed
          rw [bind_of_error failed]
          exact .failed cause outcome ordinary
      | false =>
          rw [ordinary, if_neg Bool.false_ne_true] at failed
          rw [bind_of_error failed]
          exact .aborted cause outcome ordinary

/-- Every poll takes one of the paths, and ends in the scene that the path says. -/
theorem poll_course (scene : Scene) : Course scene (poll scene) := by
  unfold poll
  rw [bind_apply, get_apply]
  simp only
  cases prepared : scene.watcher.isPrepared with
  | false => exact .notPrepared prepared
  | true =>
      simp only [Bool.not_true, Bool.false_eq_true, if_false]
      have course := probe_course scene.begun
      have started := scene.begun_watcher
      rw [show scene.begun.watcher.target = scene.watcher.target by rw [started]] at course
      cases stranded : scene.isStranded with
      | true =>
          rw [bind_of_error (pace_of_stranded stranded)]
          exact .waitRefused prepared stranded
      | false =>
          cases polled : scene.watcher.progress.hasPolled with
          | true =>
              rw [polled, if_pos rfl] at started
              have paced := pace_of_waiting polled stranded
              cases cancelled : scene.waited.watcher.pause.isCancelled with
              | true =>
                  rw [cancelled, if_pos rfl] at paced
                  rw [bind_of_error paced]
                  exact .stoppedWaiting prepared polled stranded cancelled
              | false =>
                  rw [cancelled, if_neg Bool.false_ne_true] at paced
                  rw [bind_of_ok paced]
                  refine .probing _ prepared (Bool.or_eq_false_iff.mpr ⟨stranded, ?_⟩) course
                  rw [started]
                  exact cancelled
          | false =>
              rw [polled, if_neg Bool.false_ne_true] at started
              have paced := pace_of_first polled
              cases cancelled : scene.watcher.pause.isCancelled with
              | true =>
                  rw [cancelled, if_pos rfl] at paced
                  rw [bind_of_error paced]
                  exact .stoppedBefore prepared polled cancelled
              | false =>
                  rw [cancelled, if_neg Bool.false_ne_true] at paced
                  rw [bind_of_ok paced]
                  refine .probing _ prepared (Bool.or_eq_false_iff.mpr ⟨stranded, ?_⟩) course
                  rw [started]
                  exact cancelled

/-- A poll that is not held back probes. -/
theorem probing_of_free {scene : Scene} (prepared : scene.watcher.isPrepared = true)
    (free : scene.isHeldBack = false) : ProbeCourse scene.begun (poll scene) := by
  have going := Scene.begun_free free
  have course := poll_course scene
  generalize poll scene = result at course
  cases course with
  | notPrepared unprepared => cases prepared.symm.trans unprepared
  | waitRefused ready stranded => cases stranded.symm.trans (Scene.isStranded_of_free free)
  | stoppedWaiting ready polled paced cancelled =>
      cases (Scene.begun_isCancelled_of_waited polled cancelled).symm.trans going
  | stoppedBefore ready first cancelled =>
      cases cancelled.symm.trans ((Scene.begun_isCancelled_of_first first).symm.trans going)
  | probing result ready free course => exact course

/-- A poll that has to wait and cannot asks for nothing and changes nothing. -/
theorem poll_of_stranded {scene : Scene} (prepared : scene.watcher.isPrepared = true)
    (stranded : scene.isStranded = true) :
    poll scene = .error (.foreign Clock.overflow) scene.waitCalled := by
  have course := poll_course scene
  generalize poll scene = result at course
  cases course with
  | notPrepared unprepared => cases prepared.symm.trans unprepared
  | waitRefused ready stranded => rfl
  | stoppedWaiting ready polled paced cancelled => cases stranded.symm.trans paced
  | stoppedBefore ready first cancelled =>
      cases stranded.symm.trans (Scene.isStranded_of_first first)
  | probing result ready free course =>
      cases stranded.symm.trans (Scene.isStranded_of_free free)

end ObjectWatch
