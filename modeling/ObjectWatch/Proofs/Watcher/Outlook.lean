import ObjectWatch.Proofs.Watcher.Run

/-!
# Views that decide a poll

Two runs of a watcher can be compared by a view of the scene, if what the watcher does goes by what the view
shows and the view can follow what it does.  An `Outlook` is a view of which this is known for the single
steps from the reply to a probe on: what is noted, counted and remembered, the request for content, and what
is looked at in between.  Then it holds for everything that a watcher does after its probe.

What comes before, the wait and the probe itself, is left to each view.

A `Panorama` shows all that a poll looks at, and can follow each single change that a poll makes.  Then it is
an outlook, and the wait and the probe are decided as well, so it decides whole polls and with them runs.
-/

namespace ObjectWatch

open Watcher

/-- A view that decides the steps of a poll after its probe. -/
structure Outlook {γ : Type} (view : Scene -> γ) : Prop where
  note : forall notice, DecidedBy view (Watcher.note notice)
  askContent : forall bucket key, DecidedBy view (modify (Scene.called (.get bucket key)) : Act Unit)
  awaitContent : DecidedBy view awaitGet
  rememberToken : forall token, DecidedBy view (remember (·.commit token))
  rememberDecoded : DecidedBy view (remember Progress.markDecoded)
  rememberDisabled : DecidedBy view (remember Progress.disableDecoding)
  countProbe : forall success, DecidedBy view (count (Tally.recordProbe success))
  countUnchanged : DecidedBy view (count Tally.recordUnchanged)
  countRetrieval : forall token success, DecidedBy view (count (Tally.recordRetrieval token success))
  countDecode : forall success, DecidedBy view (count (Tally.recordDecode success))
  pause : forall {scene other}, view scene = view other -> scene.watcher.pause = other.watcher.pause
  token : forall {scene other}, view scene = view other ->
    scene.watcher.progress.token = other.watcher.progress.token
  decodeState : forall {scene other}, view scene = view other ->
    scene.watcher.progress.decodeState = other.watcher.progress.decodeState

namespace Outlook

variable {γ : Type} {view : Scene -> γ}

theorem checkCancelled_decided (outlook : Outlook view) : DecidedBy view checkCancelled := by
  apply DecidedBy.of_get
  · intro state
    exact .ite (.throw _) (.pure _)
  · intro state other same
    rw [outlook.pause same]

theorem commit_decided (outlook : Outlook view) (key token : String) :
    DecidedBy view (commit key token) := by
  apply DecidedBy.of_get
  · intro state
    apply DecidedBy.bind (outlook.rememberToken token)
    intro _
    exact outlook.note _
  · intro state other same
    rw [outlook.token same]

theorem retrieve_decided (outlook : Outlook view) (bucket key token : String) :
    DecidedBy view (retrieve bucket key token) := by
  apply DecidedBy.bind (outlook.askContent bucket key)
  intro _
  apply DecidedBy.bind outlook.awaitContent
  intro outcome
  cases outcome.bind fun delivery => delivery.content.map (·, delivery.encoding) with
  | ok content =>
      apply DecidedBy.bind (outlook.countRetrieval token true)
      intro _
      exact .pure content
  | error cause =>
      dsimp only
      split
      · exact .throw _
      · apply DecidedBy.bind (outlook.countRetrieval token false)
        intro _
        apply DecidedBy.bind (outlook.note _)
        intro _
        exact .throw _

theorem disableDecoding_decided (outlook : Outlook view) : DecidedBy view disableDecoding := by
  apply DecidedBy.of_get
  · intro scene
    cases Notice.ofDisabling? scene.watcher.progress with
    | none => exact outlook.rememberDisabled
    | some notice =>
        apply DecidedBy.bind (outlook.note notice)
        intro _
        exact outlook.rememberDisabled
  · intro scene other same
    unfold Notice.ofDisabling? Progress.mayDecode
    rw [outlook.decodeState same]

theorem unpack_decided (outlook : Outlook view) (key token : String) (body : Body) :
    DecidedBy view (unpack key token body) := by
  unfold unpack
  cases Gzip.openBody body with
  | ok stream =>
      apply DecidedBy.bind outlook.rememberDecoded
      intro _
      apply DecidedBy.bind (outlook.countDecode true)
      intro _
      exact .pure _
  | error failure =>
      dsimp only
      split
      · exact .throw _
      · apply DecidedBy.bind outlook.disableDecoding_decided
        intro _
        apply DecidedBy.bind (outlook.countDecode false)
        intro _
        apply DecidedBy.bind (outlook.note _)
        intro _
        exact .throw _

variable {scene other : Scene}

/-- Two probes that are told the same do the same. -/
theorem probe_looksSame (outlook : Outlook view) {bucket key : String}
    (told : LookSame view (awaitHead (scene.called (.head bucket key)))
      (awaitHead (other.called (.head bucket key)))) :
    LookSame view (probe bucket key scene) (probe bucket key other) := by
  unfold probe
  rw [bind_apply, bind_apply, modify_apply, modify_apply]
  apply LookSame.bind told
  intro outcome
  cases outcome with
  | ok metadata =>
      apply DecidedBy.bind (outlook.countProbe true)
      intro _
      exact .pure metadata
  | error cause =>
      dsimp only
      split
      · exact .throw _
      · apply DecidedBy.bind (outlook.countProbe false)
        intro _
        apply DecidedBy.bind (outlook.note _)
        intro _
        exact .throw _

/-- Two polls do the same if they do up to the end of their probes. -/
theorem poll_looksSame (outlook : Outlook view) (same : view scene = view other)
    (prepared : scene.watcher.isPrepared = other.watcher.isPrepared)
    (target : scene.watcher.target.bucket = other.watcher.target.bucket ∧
      scene.watcher.target.key = other.watcher.target.key)
    (probes : forall bucket key, LookSame view ((pace >>= fun _ => probe bucket key) scene)
      ((pace >>= fun _ => probe bucket key) other)) :
    LookSame view (poll scene) (poll other) := by
  unfold poll
  rw [bind_apply, bind_apply, get_apply, get_apply]
  dsimp only
  rw [← prepared, ← target.1, ← target.2]
  cases scene.watcher.isPrepared with
  | false => exact .error _ same
  | true =>
      simp only [Bool.not_true, Bool.false_eq_true, if_false]
      rw [← bind_assoc]
      apply LookSame.bind (probes _ _)
      intro metadata
      apply DecidedBy.of_get
      · intro compared
        apply DecidedBy.ite
        · apply DecidedBy.bind outlook.countUnchanged
          intro _
          apply DecidedBy.bind (outlook.note _)
          intro _
          exact .pure none
        · apply DecidedBy.bind (outlook.commit_decided _ _)
          intro _
          apply DecidedBy.bind outlook.checkCancelled_decided
          intro _
          apply DecidedBy.bind (outlook.retrieve_decided _ _ _)
          rintro ⟨body, encoding⟩
          apply DecidedBy.of_get
          · intro supplied
            apply DecidedBy.ite
            · apply DecidedBy.bind (outlook.unpack_decided _ _ body)
              intro content
              exact .pure (some content)
            · exact .pure (some (Content.raw body))
          · intro supplied others same
            unfold Progress.mayDecode
            rw [outlook.decodeState same]
      · intro compared others same
        unfold Progress.knows
        rw [outlook.token same]

end Outlook

/-! ## Views that show all that a poll looks at -/

/-- Where a view shows the same before a change, it does so after it. -/
def Respects {γ : Type} (view : Scene -> γ) (change : Scene -> Scene) : Prop :=
  forall ⦃scene other⦄, view scene = view other -> view (change scene) = view (change other)

namespace Respects

variable {γ : Type} {view : Scene -> γ} {change : Scene -> Scene}

/-- A change that can be told from the view. -/
theorem of_shown (shown : γ -> γ) (commutes : forall scene, view (change scene) = shown (view scene)) :
    Respects view change := by
  intro scene other same
  rw [commutes, commutes, same]

theorem decided (respects : Respects view change) : DecidedBy view (modify change : Act Unit) :=
  fun _ _ same => .ok _ (respects same)

end Respects

/-- A view that shows all that a poll looks at, and can follow each change that a poll makes. -/
structure Panorama {γ : Type} (view : Scene -> γ) : Prop where
  note : forall notice, Respects view (Scene.note notice)
  called : forall call, Respects view (Scene.called call)
  remembered : forall change, Respects view (Scene.remembered change)
  counted : forall change, Respects view (Scene.counted change)
  cancelPause : Respects view Scene.cancelPause
  resetPause : Respects view Scene.resetPause
  halted : Respects view fun scene => { scene with around.running := false }
  announced : Respects view fun scene => { scene with around.nextWaitCancelled := false }
  headTaken : Respects view fun scene => { scene with around.remote := scene.around.remote.head.2 }
  getTaken : Respects view fun scene => { scene with around.remote := scene.around.remote.get.2 }
  bucket : forall {scene other}, view scene = view other ->
    scene.watcher.target.bucket = other.watcher.target.bucket
  key : forall {scene other}, view scene = view other ->
    scene.watcher.target.key = other.watcher.target.key
  prepared : forall {scene other}, view scene = view other ->
    scene.watcher.isPrepared = other.watcher.isPrepared
  interval : forall {scene other}, view scene = view other ->
    scene.watcher.interval = other.watcher.interval
  pause : forall {scene other}, view scene = view other -> scene.watcher.pause = other.watcher.pause
  progress : forall {scene other}, view scene = view other ->
    scene.watcher.progress = other.watcher.progress
  replies : forall {scene other}, view scene = view other ->
    scene.headReply = other.headReply ∧ scene.getReply = other.getReply
  silent : forall {scene other}, view scene = view other ->
    scene.around.remote.isSilent = other.around.remote.isSilent
  stopper : forall {scene other}, view scene = view other ->
    scene.around.stopper = other.around.stopper
  announcement : forall {scene other}, view scene = view other ->
    scene.around.nextWaitCancelled = other.around.nextWaitCancelled
  clock : forall {scene other}, view scene = view other -> scene.around.clock = other.around.clock

namespace Panorama

variable {γ : Type} {view : Scene -> γ}

/-! ### Interruptions -/

theorem cancel (panorama : Panorama view) : Respects view Scene.cancel := by
  intro scene other same
  unfold Scene.cancel
  rw [panorama.key same]
  exact panorama.cancelPause (panorama.note _ same)

theorem stop (panorama : Panorama view) : Respects view Scene.stop :=
  fun _ _ same => panorama.cancel (panorama.halted (panorama.note .stopping same))

theorem requestStop (panorama : Panorama view) : Respects view Scene.requestStop := by
  intro scene other same
  unfold Scene.requestStop
  rw [panorama.stopper same]
  cases other.around.stopper with
  | absent => exact same
  | direct => exact panorama.stop same
  | signal number => exact panorama.stop (panorama.note _ same)

theorem interrupt (panorama : Panorama view) (interruption : Interruption) :
    Respects view (Scene.interrupt interruption) := by
  intro scene other same
  rcases interruption with ⟨cancels, stops⟩
  have cancelled : view (if cancels then scene.cancelPause else scene) =
      view (if cancels then other.cancelPause else other) := by
    cases cancels with
    | false => exact same
    | true => exact panorama.cancelPause same
  cases stops with
  | false => exact cancelled
  | true => exact panorama.requestStop cancelled

theorem interruptWait (panorama : Panorama view) : Respects view Scene.interruptWait := by
  have asked : Respects view fun scene : Scene =>
      if scene.around.remote.isSilent then scene.requestStop else scene := by
    intro scene other same
    dsimp only
    rw [panorama.silent same]
    split
    · exact panorama.requestStop same
    · exact same
  intro scene other same
  unfold Scene.interruptWait
  rw [panorama.announcement same]
  cases other.around.nextWaitCancelled with
  | false => exact asked same
  | true => exact asked (panorama.announced (panorama.cancelPause same))

/-! ### The stages of a poll -/

theorem waitCalled (panorama : Panorama view) : Respects view Scene.waitCalled := by
  intro scene other same
  unfold Scene.waitCalled
  rw [panorama.interval same]
  exact panorama.called _ same

theorem waited (panorama : Panorama view) : Respects view Scene.waited :=
  fun _ _ same => panorama.interruptWait (panorama.waitCalled same)

theorem stranded (panorama : Panorama view) {scene other : Scene} (same : view scene = view other) :
    scene.isStranded = other.isStranded := by
  unfold Scene.isStranded Scene.refusesWait
  rw [panorama.progress same, panorama.pause same, panorama.clock same, panorama.interval same]

theorem begun (panorama : Panorama view) : Respects view Scene.begun := by
  intro scene other same
  unfold Scene.begun
  rw [panorama.progress same]
  split
  · exact panorama.remembered _ (panorama.waited same)
  · exact panorama.remembered _ same

theorem outlook (panorama : Panorama view) : Outlook view where
  note notice := (panorama.note notice).decided
  askContent bucket key := (panorama.called (.get bucket key)).decided
  awaitContent := by
    intro scene other same
    rw [awaitGet_apply, awaitGet_apply, (panorama.replies same).2]
    exact .ok _ (panorama.interrupt _ (panorama.getTaken same))
  rememberToken token := (panorama.remembered (·.commit token)).decided
  rememberDecoded := (panorama.remembered Progress.markDecoded).decided
  rememberDisabled := (panorama.remembered Progress.disableDecoding).decided
  countProbe success := (panorama.counted (Tally.recordProbe success)).decided
  countUnchanged := (panorama.counted Tally.recordUnchanged).decided
  countRetrieval token success := (panorama.counted (Tally.recordRetrieval token success)).decided
  countDecode success := (panorama.counted (Tally.recordDecode success)).decided
  pause := panorama.pause
  token same := congrArg Progress.token (panorama.progress same)
  decodeState same := congrArg Progress.decodeState (panorama.progress same)

theorem pace_decided (panorama : Panorama view) : DecidedBy view pace := by
  intro scene other same
  have polled := congrArg Progress.hasPolled (panorama.progress same)
  have alike := panorama.stranded same
  cases stranded : scene.isStranded with
  | true =>
      rw [pace_of_stranded stranded, pace_of_stranded (alike.symm.trans stranded)]
      exact .error _ (panorama.waitCalled same)
  | false =>
      cases first : scene.watcher.progress.hasPolled with
      | true =>
          rw [pace_of_waiting first stranded,
            pace_of_waiting (polled.symm.trans first) (alike.symm.trans stranded),
            panorama.pause (panorama.waited same)]
          split
          · exact .error _ (panorama.waited same)
          · exact .ok _ (panorama.begun same)
      | false =>
          rw [pace_of_first first, pace_of_first (polled.symm.trans first), panorama.pause same]
          split
          · exact .error _ (panorama.begun same)
          · exact .ok _ (panorama.begun same)

theorem probe_decided (panorama : Panorama view) (bucket key : String) :
    DecidedBy view (probe bucket key) := by
  intro scene other same
  have asked := panorama.called (.head bucket key) same
  apply panorama.outlook.probe_looksSame
  rw [awaitHead_apply, awaitHead_apply, (panorama.replies asked).1]
  exact .ok _ (panorama.interrupt _ (panorama.headTaken asked))

/-- What a poll does, and what the view shows then, follows from what the view shows before. -/
theorem poll_decided (panorama : Panorama view) : DecidedBy view poll := by
  intro scene other same
  apply panorama.outlook.poll_looksSame same (panorama.prepared same)
    ⟨panorama.bucket same, panorama.key same⟩
  intro bucket key
  exact (panorama.pace_decided.bind fun _ => panorama.probe_decided bucket key) scene other same

/-- The same holds for whatever else a caller does with a watcher. -/
theorem move (panorama : Panorama view) (move : Move) : Respects view move.apply := by
  intro scene other same
  cases move with
  | poll => exact (panorama.poll_decided scene other same).stateOf_eq
  | cancel => exact panorama.cancel same
  | reset => exact panorama.resetPause same

end Panorama
end ObjectWatch
