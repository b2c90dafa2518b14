import ObjectWatch.Proofs.Watcher.Retrieval

/-!
# A writer beside the watcher

An object is a sequence of versions, and a writer moves on from one to the next whenever it likes: also
between the two requests of a poll.  A probe is told the token of the version that is current then, and
a request for content is served the content of the version that is current by then.  The watcher never
learns which version that was, so for a while it may remember the token of one version and have been
served the content of a later one.

The watcher cannot be misled about this for long.  The version whose token it remembers is at most as
new as the one whose content it was served, and that is at most as new as the current one.  A poll that
finds nothing new has just seen the remembered token, so all three are the same version.
-/

namespace ObjectWatch

/-- A version of an object. -/
structure Version where
  token : String
  body : Body
  encoding : Option String := none

/-- The versions that a writer makes of an object, each under a token of its own. -/
structure History where
  version : Nat -> Version
  named : forall number, (version number).token ≠ ""
  fresh : forall first second, (version first).token = (version second).token -> first = second

namespace Scene

/-- The watcher is prepared, nothing is cancelled, and no cancellation of a wait is announced. -/
structure IsReady (scene : Scene) : Prop where
  prepared : scene.watcher.isPrepared = true
  free : scene.watcher.pause.isCancelled = false
  unannounced : scene.around.nextWaitCancelled = false

/-- The next probe is told a version, the next request for content is served a version, and nothing is
interrupted meanwhile. -/
structure Faces (scene : Scene) (told served : Version) : Prop where
  speaking : scene.around.remote.isSilent = false
  head : exists metadata, scene.headReply.outcome = .ok metadata ∧ metadata.token = told.token
  headQuiet : scene.headReply.interruption = {}
  get : scene.fetched = .ok (served.body, served.encoding)
  getQuiet : scene.getReply.interruption = {}

variable {scene : Scene} {told served : Version}

/-- A wait ends by itself if no cancellation is announced and the store has something to say. -/
theorem interruptWait_of_undisturbed (unannounced : scene.around.nextWaitCancelled = false)
    (speaking : scene.around.remote.isSilent = false) : scene.interruptWait = scene := by
  unfold interruptWait
  simp only [unannounced, speaking, Bool.false_eq_true, if_false]

theorem IsReady.begun (ready : scene.IsReady) (speaking : scene.around.remote.isSilent = false) :
    scene.begun.IsReady := by
  unfold Scene.begun Scene.waited
  cases scene.watcher.progress.hasPolled with
  | true =>
      have undisturbed : scene.waitCalled.interruptWait = scene.waitCalled :=
        interruptWait_of_undisturbed ready.unannounced speaking
      rw [if_pos rfl, undisturbed]
      exact ⟨ready.prepared, ready.free, ready.unannounced⟩
  | false => exact ⟨ready.prepared, ready.free, ready.unannounced⟩

theorem IsReady.probed (ready : scene.IsReady) (quiet : scene.headReply.interruption = {}) :
    scene.probed.IsReady := by
  unfold Scene.probed
  rw [quiet]
  exact ⟨ready.prepared, ready.free, ready.unannounced⟩

theorem IsReady.retrieved (ready : scene.IsReady) (quiet : scene.getReply.interruption = {}) :
    scene.retrieved.IsReady := by
  unfold Scene.retrieved
  rw [quiet]
  exact ⟨ready.prepared, ready.free, ready.unannounced⟩

theorem IsReady.givenUp (ready : scene.IsReady) (cause : Fault) : (scene.givenUp cause).IsReady := by
  unfold Scene.givenUp
  cases Notice.ofDisabling? scene.watcher.progress <;>
    exact ⟨ready.prepared, ready.free, ready.unannounced⟩

end Scene

/-- Opening content cancels nothing. -/
theorem OpeningCourse.ready {scene : Scene} {token : String} {body : Body}
    {encoding : Option String} {result : PollEnd}
    (course : OpeningCourse scene token body encoding result) (ready : scene.IsReady) :
    (stateOf result).IsReady := by
  cases course with
  | raw asIs => exact ready
  | unpacked stream unpacks opened => exact ⟨ready.prepared, ready.free, ready.unannounced⟩
  | broken cause left unpacks failed unrelated => exact ready
  | notGzip cause left unpacks failed spoils => exact ready.givenUp cause

/-- A retrieval that is served content ends with the content or because of it. -/
theorem RetrievalCourse.undisturbed {scene : Scene} {token : String} {result : PollEnd}
    (course : RetrievalCourse scene token result) (ready : scene.IsReady)
    (quiet : scene.getReply.interruption = {}) {content : Body × Option String}
    (served : scene.fetched = .ok content) :
    (stateOf result).IsReady ∧ forall after, result ≠ .ok none after := by
  cases course with
  | stopped cancelled =>
      rw [ready.free] at cancelled
      cases cancelled
  | aborted cause free outcome aborts =>
      rw [served] at outcome
      cases outcome
  | failed cause free outcome ordinary =>
      rw [served] at outcome
      cases outcome
  | delivered body encoding result free outcome course =>
      have retrieved := ready.retrieved quiet
      refine ⟨course.ready ⟨retrieved.prepared, retrieved.free, retrieved.unannounced⟩, ?_⟩
      rintro after rfl
      cases course

/-- A watcher that nothing disturbs sends its probe, if it can wait. -/
theorem Scene.probing_of_ready {scene : Scene} (ready : scene.IsReady)
    (paced : scene.isStranded = false) (speaking : scene.around.remote.isSilent = false) :
    ProbeCourse scene.begun (Watcher.poll scene) :=
  probing_of_free ready.prepared (Bool.or_eq_false_iff.mpr ⟨paced, (ready.begun speaking).free⟩)

/-! ## One poll -/

/-- What a poll does that is told a version and is not disturbed.  It finds nothing new exactly when it
remembers the token of the version, and else it asks for content. -/
structure Undisturbed (scene : Scene) (told : Version) (result : PollEnd) : Prop where
  ready : (stateOf result).IsReady
  token : (stateOf result).watcher.progress.token = told.token
  unchanged_iff : (exists after, result = .ok none after) ↔
    told.token = scene.watcher.progress.token
  gets : (stateOf result).gets =
    if told.token = scene.watcher.progress.token then scene.gets else scene.gets + 1

theorem poll_undisturbed {scene : Scene} {told served : Version} (ready : scene.IsReady)
    (paced : scene.isStranded = false) (faces : scene.Faces told served) :
    Undisturbed scene told (Watcher.poll scene) := by
  have begun := ready.begun faces.speaking
  rcases faces.head with ⟨metadata, outcome, token⟩
  have headReply := scene.begun_headReply
  have remembered := scene.begun_token
  have course := scene.probing_of_ready ready paced faces.speaking
  generalize Watcher.poll scene = result at course
  have after := course.token_eq
  rw [headReply, outcome] at after
  have probed := begun.probed (headReply ▸ faces.headQuiet)
  cases course with
  | aborted cause failed aborts =>
      rw [headReply, outcome] at failed
      cases failed
  | failed cause failed ordinary =>
      rw [headReply, outcome] at failed
      cases failed
  | unchanged metadata other known =>
      rw [headReply, outcome] at other
      cases other
      rw [remembered, token] at known
      refine ⟨⟨probed.prepared, probed.free, probed.unannounced⟩, after.trans token,
        ⟨fun _ => known, fun _ => ⟨_, rfl⟩⟩, ?_⟩
      rw [if_pos known, ← scene.begun_gets]
      simp [stateOf, Scene.gets, Call.isGet]
  | changed metadata result other new course =>
      rw [headReply, outcome] at other
      cases other
      have reply : ((scene.begun.probed.counted (Tally.recordProbe true)).committed
          metadata.token).getReply = scene.getReply := scene.begun_probed_getReply
      have fetched : ((scene.begun.probed.counted (Tally.recordProbe true)).committed
          metadata.token).fetched = scene.fetched := by
        unfold Scene.fetched
        rw [reply]
      have free : ((scene.begun.probed.counted (Tally.recordProbe true)).committed
          metadata.token).watcher.pause.isCancelled = false := probed.free
      have requests := course.calls
      rw [if_neg (by rw [free]; exact Bool.false_ne_true)] at requests
      rcases course.undisturbed ⟨probed.prepared, probed.free, probed.unannounced⟩
        (reply ▸ faces.getQuiet) (fetched.trans faces.get) with ⟨readyAfter, something⟩
      refine ⟨readyAfter, after.trans token, ⟨?_, fun known => ?_⟩, ?_⟩
      · rintro ⟨after, nothing⟩
        exact absurd nothing (something after)
      · exact absurd (token.trans (known.trans remembered.symm)) new
      · rw [if_neg fun known => new (token.trans (known.trans remembered.symm)),
          ← scene.begun_gets, Scene.gets, requests]
        simp [Scene.gets, Call.isGet]

/-! ## The writer and the watcher together -/

/-- A watcher, the number of the version that is current, and the content that the store served last. -/
structure Watched where
  scene : Scene
  current : Nat := 0
  served : Option Body := none

/-- What happens next to an object and its watcher. -/
inductive Turn where
  /-- The writer moves on to the next version. -/
  | write
  /-- The watcher polls, and the writer moves on a number of times after the probe and before the
  request for content. -/
  | poll (meanwhile : Nat)
deriving DecidableEq, Repr

namespace History

/-- The replies of the store while one version is probed and another one is served. -/
def replies (history : History) (told served : Nat) : Remote where
  heads := [{ outcome := .ok { tag := some (history.version told).token } }]
  gets :=
    [{ outcome := .ok
        { body := some (history.version served).body
          encoding := (history.version served).encoding } }]

/-- The scene of the next poll. -/
def facing (history : History) (meanwhile : Nat) (watched : Watched) : Scene :=
  { watched.scene with
    around.remote := history.replies watched.current (watched.current + meanwhile) }

/-- One turn.  The store serves content if the poll asks for it. -/
def step (history : History) : Turn -> Watched -> Watched
  | .write, watched => { watched with current := watched.current + 1 }
  | .poll meanwhile, watched =>
      let after := stateOf (Watcher.poll (history.facing meanwhile watched))
      { scene := after
        current := watched.current + meanwhile
        served :=
          if after.gets = watched.scene.gets then watched.served
          else some (history.version (watched.current + meanwhile)).body }

/-- All turns, the first of them first. -/
def run (history : History) (turns : List Turn) (watched : Watched) : Watched :=
  turns.foldl (fun watched turn => history.step turn watched) watched

/-- The remembered token is that of some version, the content served last is that of a later version
or the same, and neither is newer than the current one.  Before the first poll nothing is remembered. -/
structure Follows (history : History) (watched : Watched) : Prop where
  ready : watched.scene.IsReady
  inOrder : watched.scene.watcher.progress.token = "" ∨
    exists seen got, watched.scene.watcher.progress.token = (history.version seen).token ∧
      watched.served = some (history.version got).body ∧ seen ≤ got ∧ got ≤ watched.current

variable {history : History} {watched : Watched}

theorem facing_faces (history : History) (meanwhile : Nat) (watched : Watched) :
    (history.facing meanwhile watched).Faces (history.version watched.current)
      (history.version (watched.current + meanwhile)) :=
  ⟨rfl, ⟨_, rfl, rfl⟩, rfl, rfl, rfl⟩

/-- A poll that is told a version which the watcher remembers has been served that version. -/
theorem Follows.served_of_known (follows : history.Follows watched)
    (known : (history.version watched.current).token = watched.scene.watcher.progress.token) :
    watched.served = some (history.version watched.current).body := by
  rcases follows.inOrder with unseen | ⟨seen, got, token, served, seenFirst, gotFirst⟩
  · rw [unseen] at known
    exact absurd known (history.named watched.current)
  · rw [token] at known
    have latest := history.fresh _ _ known
    have same : got = watched.current := by omega
    rw [served, same]

/-- The watcher is never disturbed, so every poll that can wait goes by what it is told. -/
theorem Follows.polled (follows : history.Follows watched) (paced : watched.scene.isStranded = false)
    (meanwhile : Nat) :
    Undisturbed watched.scene (history.version watched.current)
      (Watcher.poll (history.facing meanwhile watched)) := by
  have ready : (history.facing meanwhile watched).IsReady :=
    ⟨follows.ready.prepared, follows.ready.free, follows.ready.unannounced⟩
  have polled := poll_undisturbed ready paced (history.facing_faces meanwhile watched)
  exact ⟨polled.ready, polled.token, polled.unchanged_iff, polled.gets⟩

/-- A poll that cannot wait fails, and the store serves nothing. -/
theorem step_of_stranded (history : History) (prepared : watched.scene.watcher.isPrepared = true)
    (stranded : watched.scene.isStranded = true) (meanwhile : Nat) :
    Watcher.poll (history.facing meanwhile watched) =
        .error (.foreign Clock.overflow) (history.facing meanwhile watched).waitCalled ∧
      history.step (.poll meanwhile) watched =
        { scene := (history.facing meanwhile watched).waitCalled
          current := watched.current + meanwhile
          served := watched.served } := by
  have failed : Watcher.poll (history.facing meanwhile watched) = _ :=
    poll_of_stranded prepared stranded
  have unasked : (stateOf (Watcher.poll (history.facing meanwhile watched))).gets =
      watched.scene.gets := by
    rw [failed]
    exact (history.facing meanwhile watched).waitCalled_gets
  refine ⟨failed, (congrArg (Watched.mk _ _) (if_pos unasked)).trans ?_⟩
  rw [failed]
  rfl

/-- A poll that is told a remembered version asks for nothing. -/
theorem Follows.step_served_of_known (follows : history.Follows watched)
    (paced : watched.scene.isStranded = false) (meanwhile : Nat)
    (known : (history.version watched.current).token = watched.scene.watcher.progress.token) :
    (history.step (.poll meanwhile) watched).served =
      some (history.version watched.current).body := by
  have gets := (follows.polled paced meanwhile).gets
  rw [if_pos known] at gets
  exact (if_pos gets).trans (follows.served_of_known known)

theorem Follows.step (follows : history.Follows watched) (turn : Turn) :
    history.Follows (history.step turn watched) := by
  cases turn with
  | write =>
      refine ⟨follows.ready, follows.inOrder.imp id ?_⟩
      rintro ⟨seen, got, token, served, seenFirst, gotFirst⟩
      exact ⟨seen, got, token, served, seenFirst, Nat.le_succ_of_le gotFirst⟩
  | poll meanwhile =>
      cases stranded : watched.scene.isStranded with
      | true =>
          rw [(history.step_of_stranded follows.ready.prepared stranded meanwhile).2]
          refine ⟨⟨follows.ready.prepared, follows.ready.free, follows.ready.unannounced⟩,
            follows.inOrder.imp id ?_⟩
          rintro ⟨seen, got, token, served, seenFirst, gotFirst⟩
          exact ⟨seen, got, token, served, seenFirst, Nat.le_add_right_of_le gotFirst⟩
      | false =>
          have polled := follows.polled stranded meanwhile
          refine ⟨polled.ready, .inr ?_⟩
          by_cases known : (history.version watched.current).token =
              watched.scene.watcher.progress.token
          · exact ⟨watched.current, watched.current, polled.token,
              follows.step_served_of_known stranded meanwhile known, Nat.le_refl _,
              Nat.le_add_right _ _⟩
          · have gets := polled.gets
            rw [if_neg known] at gets
            have asked : (stateOf (Watcher.poll (history.facing meanwhile watched))).gets ≠
                watched.scene.gets := fun same => Nat.succ_ne_self _ (gets.symm.trans same)
            exact ⟨watched.current, watched.current + meanwhile, polled.token, if_neg asked,
              Nat.le_add_right _ _, Nat.le_refl _⟩

theorem Follows.run (follows : history.Follows watched) (turns : List Turn) :
    history.Follows (history.run turns watched) := by
  induction turns generalizing watched with
  | nil => exact follows
  | cons turn turns inductionHypothesis => exact inductionHypothesis (follows.step turn)

end History

/-- A poll that finds nothing new means what it says, whatever the writer does at any moment: the
content that the store served last is that of the version which this poll was told of. -/
theorem unchanged_means_current (history : History) {start : Watched} (ready : start.scene.IsReady)
    (unseen : start.scene.watcher.progress.token = "") (turns : List Turn) (meanwhile : Nat)
    {after : Scene}
    (unchanged : Watcher.poll (history.facing meanwhile (history.run turns start)) =
      .ok none after) :
    (history.step (.poll meanwhile) (history.run turns start)).served =
      some (history.version (history.run turns start).current).body := by
  have first : history.Follows start := ⟨ready, .inl unseen⟩
  have follows := first.run turns
  have paced : (history.run turns start).scene.isStranded = false := by
    refine Bool.eq_false_iff.mpr fun stranded => ?_
    have failed := (history.step_of_stranded follows.ready.prepared stranded meanwhile).1
    cases unchanged.symm.trans failed
  have known := (follows.polled paced meanwhile).unchanged_iff.mp ⟨after, unchanged⟩
  exact follows.step_served_of_known paced meanwhile known

/-- A history whose versions hold their own numbers. -/
def countedVersions : History where
  version number :=
    { token := String.ofList (List.replicate (number + 1) 'v')
      body := .ofBytes [UInt8.ofNat number] }
  named number same := by
    have letters := congrArg String.toList same
    simp at letters
  fresh first second same := by
    have letters := congrArg (fun token => token.toList.length) same
    simpa using letters

/-- A watcher that was prepared and has seen nothing. -/
def beforeVersions : Watched where
  scene :=
    { watcher :=
        { target := { bucket := "b", key := "k" }
          credentials := some (Credentials.resolve { bucket := "b", key := "k" } []) } }

/-- The first poll is told one version and served the next.  The second is told that one and asks for it
again, and the third finds nothing new. -/
theorem unchanged_means_current_overtaken :
    beforeVersions.scene.IsReady ∧ beforeVersions.scene.watcher.progress.token = "" ∧
      (exists after, Watcher.poll
        (countedVersions.facing 0 (countedVersions.run [.poll 1, .poll 0] beforeVersions)) =
          .ok none after) ∧
      (countedVersions.step (.poll 0)
        (countedVersions.run [.poll 1, .poll 0] beforeVersions)).served = some (.ofBytes [1]) := by
  have ready : beforeVersions.scene.IsReady := ⟨rfl, rfl, rfl⟩
  have first : countedVersions.Follows beforeVersions := ⟨ready, .inl rfl⟩
  have measured : (countedVersions.run [.poll 1, .poll 0] beforeVersions).scene.around.clock.refuses
      (countedVersions.run [.poll 1, .poll 0] beforeVersions).scene.watcher.interval = false := rfl
  have polled := (first.run [.poll 1, .poll 0]).polled (Scene.isStranded_of_measured measured) 0
  have unchanged := polled.unchanged_iff.mpr (by decide +kernel)
  rcases unchanged with ⟨after, unchanged⟩
  refine ⟨ready, rfl, ⟨after, unchanged⟩, ?_⟩
  exact unchanged_means_current countedVersions ready rfl [.poll 1, .poll 0] 0 unchanged

end ObjectWatch
