import ObjectWatch.Proofs.Settings.Interval
import ObjectWatch.Proofs.Watcher.Covering
import ObjectWatch.Proofs.Watcher.Requests
import ObjectWatch.Proofs.Watcher.Retrieval

/-!
# Preparing a watcher again

The first preparation that succeeds fills in what the target leaves open, finds the credentials, and sets the
interval.  A watcher of which all this is done is settled, and whatever its caller does with it, it remains
so: preparing it again finds the same and leaves the watcher as it is, even if no client can be built then.

So preparations can be taken out of a run.  A run with them and the run without them are compared by a view of
the scene that leaves out what only a preparation leaves behind, which is its notices, its attempts to build a
client and the replies to these.  A poll looks at none of this.

A preparation that is refused because the target names no object has changed nothing.
-/

namespace ObjectWatch

open Watcher

/-! ## Refused preparations -/

/-- A preparation fails before anything was changed, or because no client could be built. -/
theorem refused_or_unconnected {scene after : Scene} {failure : Failure}
    (failed : prepare scene = .error failure after) :
    (¬ scene.watcher.target.NamesObject ∧ after = scene ∧
        failure.report.watchKind? = some .configuration) ∨
      scene.watcher.target.NamesObject ∧
        exists fault, scene.clientFault? = some fault ∧ failure = .foreign fault := by
  have course := preparation_course scene
  rw [failed] at course
  cases course with
  | bucketMissing missing => exact .inl ⟨fun named => named.1 missing, rfl, rfl⟩
  | keyMissing found missing => exact .inl ⟨fun named => named.2 missing, rfl, rfl⟩
  | clientFailed fault named builds fails => exact .inr ⟨named, fault, (if_pos builds).trans fails, rfl⟩

/-- A missing bucket is found first. -/
theorem prepare_eq_bucketMissing_iff (scene : Scene) :
    prepare scene = .error .bucketMissing scene ↔ scene.watcher.target.bucket = "" := by
  constructor
  · intro failed
    have course := preparation_course scene
    rw [failed] at course
    cases course with
    | bucketMissing missing => exact missing
  · intro missing
    rw [prepare_apply, if_pos missing]

theorem prepare_eq_keyMissing_iff (scene : Scene) :
    prepare scene = .error .keyMissing scene ↔
      scene.watcher.target.bucket ≠ "" ∧ scene.watcher.target.key = "" := by
  constructor
  · intro failed
    have course := preparation_course scene
    rw [failed] at course
    cases course with
    | keyMissing found missing => exact ⟨found, missing⟩
  · rintro ⟨found, missing⟩
    rw [prepare_apply, if_neg found, if_pos missing]

namespace Scene

/-- If the client that the watcher builds fails, it fails with no error about the configuration.  Only the
watcher itself knows such errors. -/
def FailsAbroad (scene : Scene) : Prop :=
  forall fault, scene.clientFault? = some fault -> fault.watchKind? ≠ some .configuration

variable {scene : Scene}

/-- A preparation that reports an error in the configuration has changed nothing, and asked for no client. -/
theorem unchanged_of_misconfigured (abroad : scene.FailsAbroad) {after : Scene} {failure : Failure}
    (failed : prepare scene = .error failure after)
    (misconfigured : failure.report.watchKind? = some .configuration) : after = scene := by
  rcases refused_or_unconnected failed with ⟨_, same, _⟩ | ⟨_, fault, fails, rfl⟩
  · exact same
  · rw [Failure.foreign_watchKind?] at misconfigured
    exact absurd misconfigured (abroad fault fails)

/-- Such an error is reported exactly for a target that names no object. -/
theorem misconfigured_iff (abroad : scene.FailsAbroad) :
    (exists failure after, prepare scene = .error failure after ∧
      failure.report.watchKind? = some .configuration) ↔ ¬ scene.watcher.target.NamesObject := by
  constructor
  · rintro ⟨failure, after, failed, misconfigured⟩
    rcases refused_or_unconnected failed with ⟨unnamed, _⟩ | ⟨_, fault, fails, rfl⟩
    · exact unnamed
    · rw [Failure.foreign_watchKind?] at misconfigured
      exact absurd misconfigured (abroad fault fails)
  · intro unnamed
    cases ended : prepare scene with
    | ok value after =>
        have course := preparation_course scene
        rw [ended] at course
        cases course with
        | prepared named built => exact absurd named unnamed
    | error failure after =>
        rcases refused_or_unconnected ended with ⟨_, _, misconfigured⟩ | ⟨named, _⟩
        · exact ⟨failure, after, rfl, misconfigured⟩
        · exact absurd named unnamed

end Scene

/-! ## Settled watchers -/

/-- A region and an interval that are in use are not filled in again. -/
theorem Target.completed_completed (target : Target) : target.completed.completed = target.completed := by
  have region : target.completed.regionInUse = target.regionInUse := by
    have filled : target.regionInUse ≠ "" := by
      unfold regionInUse
      cases target.region with
      | none => decide
      | some region =>
          dsimp only
          split
          · decide
          · assumption
    exact if_neg filled
  have interval := target.completed_intervalInUse
  unfold completed at region interval ⊢
  rw [region, interval]

namespace Watcher

/-- A watcher without what its polls change. -/
def setup (watcher : Watcher) : Watcher := { watcher with pause := {}, progress := {}, tally := {} }

/-- Watchers that are set up alike agree in each part of it. -/
theorem parts_of_setup {watcher other : Watcher} (same : watcher.setup = other.setup) :
    watcher.target = other.target ∧ watcher.environment = other.environment ∧
      watcher.buildsClient = other.buildsClient ∧ watcher.interval = other.interval := by
  have target := congrArg Watcher.target same
  have environment := congrArg Watcher.environment same
  have buildsClient := congrArg Watcher.buildsClient same
  have interval := congrArg Watcher.interval same
  exact ⟨target, environment, buildsClient, interval⟩

/-- A watcher was prepared: nothing is left open that a preparation fills in. -/
structure IsSettled (watcher : Watcher) : Prop where
  named : watcher.target.NamesObject
  completed : watcher.target.completed = watcher.target
  interval : watcher.interval = watcher.target.intervalInUse
  credentials : watcher.credentials = some watcher.foundCredentials
  hasClient : watcher.lacksClient = false

variable {watcher : Watcher}

/-- What polls change has no part in it. -/
theorem IsSettled.of_setup {other : Watcher} (settled : watcher.IsSettled)
    (same : other.setup = watcher.setup) : other.IsSettled := by
  have settled : watcher.setup.IsSettled := ⟨settled.1, settled.2, settled.3, settled.4, settled.5⟩
  rw [← same] at settled
  exact ⟨settled.1, settled.2, settled.3, settled.4, settled.5⟩

/-- A preparation finds for a settled watcher what it has. -/
theorem IsSettled.configured (settled : watcher.IsSettled) : watcher.configured = watcher := by
  have prepared : watcher.isPrepared = true := by
    unfold isPrepared
    rw [settled.credentials, settled.hasClient]
    rfl
  unfold Watcher.configured
  rw [settled.completed, ← settled.interval, ← settled.credentials, prepared, Bool.not_true,
    ← settled.hasClient]

theorem IsSettled.connected (settled : watcher.IsSettled) : watcher.connected = watcher := by
  unfold Watcher.connected
  rw [← settled.hasClient]

/-- A watcher that a preparation has gone through is settled. -/
theorem isSettled_configured (named : watcher.target.NamesObject) :
    watcher.configured.connected.IsSettled where
  named := named
  completed := watcher.target.completed_completed
  interval := watcher.target.completed_intervalInUse.symm
  credentials := by
    show some watcher.foundCredentials = some (Credentials.resolve watcher.target.completed.completed _)
    rw [watcher.target.completed_completed]
    rfl
  hasClient := rfl

end Watcher

/-! ## What a caller does -/

/-- What a caller does who may also prepare the watcher at any time. -/
inductive Deed where
  | prepare
  | move (move : Move)
deriving DecidableEq, Repr

namespace Deed

/-- The scene after a deed.  Whatever a preparation ends with, it leaves a scene. -/
def apply : Deed -> Scene -> Scene
  | prepare, scene => stateOf (Watcher.prepare scene)
  | move next, scene => next.apply scene

/-- What the caller is told, if the deed is a poll. -/
def told? : Deed -> Scene -> Option (Except Failure (Option Content))
  | move .poll, scene => some (valueOf (poll scene))
  | _, _ => none

/-- A deed is no preparation. -/
def isMove : Deed -> Bool
  | prepare => false
  | move _ => true

end Deed

namespace Scene

/-- The scene after deeds, the first of them first. -/
def following (deeds : List Deed) (scene : Scene) : Scene :=
  deeds.foldl (fun scene deed => deed.apply scene) scene

/-- What the polls among the deeds tell. -/
def told : List Deed -> Scene -> List (Except Failure (Option Content))
  | [], _ => []
  | deed :: deeds, scene => (deed.told? scene).toList ++ told deeds (deed.apply scene)

/-- No move touches what a preparation sets. -/
theorem move_setup (move : Move) (scene : Scene) :
    (move.apply scene).watcher.setup = scene.watcher.setup := by
  cases move with
  | cancel => rfl
  | reset => rfl
  | poll =>
      cases prepared : scene.watcher.isPrepared with
      | true =>
          have lasting := poll_lasting prepared
          have setup : (Move.poll.apply scene).watcher.setup = scene.begun.watcher.setup :=
            congrArg (fun watcher => { watcher with progress := {} }) lasting
          rw [setup, scene.begun_watcher]
          rfl
      | false =>
          have course := poll_course scene
          show (stateOf (poll scene)).watcher.setup = _
          generalize poll scene = result at course
          cases course with
          | notPrepared unprepared => rfl
          | waitRefused ready stranded => cases prepared.symm.trans ready
          | stoppedWaiting ready polled paced cancelled => cases prepared.symm.trans ready
          | stoppedBefore ready first cancelled => cases prepared.symm.trans ready
          | probing result ready free course => cases prepared.symm.trans ready

variable {scene : Scene}

/-- However a preparation of a settled watcher ends, it leaves the watcher as it is. -/
theorem prepare_watcher (settled : scene.watcher.IsSettled) :
    (stateOf (prepare scene)).watcher = scene.watcher := by
  have course := preparation_course scene
  generalize prepare scene = result at course
  cases course with
  | bucketMissing missing => rfl
  | keyMissing found missing => rfl
  | clientFailed fault named builds fails =>
      rw [stateOf, scene.connecting_watcher]
      exact settled.configured
  | prepared named built =>
      rw [stateOf, scene.equipped_watcher, settled.configured]
      exact settled.connected

theorem deed_setup (settled : scene.watcher.IsSettled) (deed : Deed) :
    (deed.apply scene).watcher.setup = scene.watcher.setup := by
  cases deed with
  | prepare => exact congrArg Watcher.setup (prepare_watcher settled)
  | move move => exact move_setup move scene

/-- Whatever a caller does with a settled watcher, its setup lasts. -/
theorem following_setup (settled : scene.watcher.IsSettled) (deeds : List Deed) :
    (scene.following deeds).watcher.setup = scene.watcher.setup := by
  induction deeds generalizing scene with
  | nil => rfl
  | cons deed deeds inductionHypothesis =>
      have step := deed_setup settled deed
      exact (inductionHypothesis (settled.of_setup step)).trans step

end Scene

/-! ## What a preparation leaves behind -/

/-- Only a preparation leaves such an event. -/
def Event.ofPreparation : Event -> Bool
  | .notice (.buildingClient _ _ _) => true
  | .notice (.watcherPrepared _ _ _ _ _ _) => true
  | .call (.client _) => true
  | _ => false

/-- A journal without what preparations leave there. -/
def Journal.plain (journal : Journal) : Journal := journal.filter fun event => !event.ofPreparation

/-- A scene without what preparations of a settled watcher leave there. -/
def Scene.plain (scene : Scene) : Scene :=
  { scene with
    around.journal := scene.around.journal.plain
    around.remote.clients := [] }

namespace Scene

theorem recorded_plain (events : Journal) (scene : Scene) :
    (scene.recorded events).plain = scene.plain.recorded events.plain :=
  congrArg (fun journal => { scene.plain with around.journal := journal })
    (List.filter_append scene.around.journal events)

/-- What is the same in all scenes that look alike without preparations. -/
theorem eq_of_plain {α : Type} (part : Scene -> α)
    (shown : forall scene : Scene, part scene.plain = part scene) {scene other : Scene}
    (same : scene.plain = other.plain) : part scene = part other := by
  rw [← shown scene, same, shown other]

/-- A poll goes by nothing that only preparations leave, and each change that it makes can be followed. -/
theorem plain_panorama : Panorama Scene.plain where
  note notice := .of_shown (Scene.recorded (Journal.plain [.notice notice])) (recorded_plain _)
  called call := .of_shown (Scene.recorded (Journal.plain [.call call])) (recorded_plain _)
  remembered change := .of_shown (Scene.remembered change) fun _ => rfl
  counted change := .of_shown (Scene.counted change) fun _ => rfl
  cancelPause := .of_shown Scene.cancelPause fun _ => rfl
  resetPause := .of_shown Scene.resetPause fun _ => rfl
  halted := .of_shown (fun scene => { scene with around.running := false }) fun _ => rfl
  announced := .of_shown (fun scene => { scene with around.nextWaitCancelled := false }) fun _ => rfl
  headTaken := .of_shown (fun scene => { scene with around.remote := scene.around.remote.head.2 })
    fun _ => rfl
  getTaken := .of_shown (fun scene => { scene with around.remote := scene.around.remote.get.2 })
    fun _ => rfl
  bucket := eq_of_plain (·.watcher.target.bucket) fun _ => rfl
  key := eq_of_plain (·.watcher.target.key) fun _ => rfl
  prepared := eq_of_plain (·.watcher.isPrepared) fun _ => rfl
  interval := eq_of_plain (·.watcher.interval) fun _ => rfl
  pause := eq_of_plain (·.watcher.pause) fun _ => rfl
  progress := eq_of_plain (·.watcher.progress) fun _ => rfl
  replies same := ⟨eq_of_plain headReply (fun _ => rfl) same, eq_of_plain getReply (fun _ => rfl) same⟩
  silent := eq_of_plain (·.around.remote.isSilent) fun _ => rfl
  stopper := eq_of_plain (·.around.stopper) fun _ => rfl
  announcement := eq_of_plain (·.around.nextWaitCancelled) fun _ => rfl
  clock := eq_of_plain (·.around.clock) fun _ => rfl

variable {scene other : Scene}

/-- What only preparations leave is not seen. -/
theorem recorded_plain_of_preparation {events : Journal} (unseen : events.plain = []) (scene : Scene) :
    (scene.recorded events).plain = scene.plain := by
  rw [recorded_plain, unseen]
  exact congrArg (fun journal => { scene.plain with around.journal := journal }) (List.append_nil _)

theorem connecting_plain (settled : scene.watcher.IsSettled) : scene.connecting.plain = scene.plain := by
  unfold connecting
  rw [settled.configured]
  cases scene.watcher.buildsClient with
  | false => rfl
  | true => exact recorded_plain_of_preparation rfl scene

/-- A preparation of a settled watcher changes nothing that polls go by. -/
theorem prepare_plain (settled : scene.watcher.IsSettled) :
    (stateOf (prepare scene)).plain = scene.plain := by
  have connecting := connecting_plain settled
  have course := preparation_course scene
  generalize prepare scene = result at course
  cases course with
  | bucketMissing missing => rfl
  | keyMissing found missing => rfl
  | clientFailed fault named builds fails => exact connecting
  | prepared named built =>
      have watcher : scene.connecting.watcher.connected = scene.connecting.watcher := by
        rw [scene.connecting_watcher, settled.configured, settled.connected]
      unfold equipped
      rw [stateOf, watcher]
      exact (recorded_plain_of_preparation rfl scene.connecting).trans connecting

/-- Preparations can be taken out of what a caller does with a settled watcher. -/
theorem following_plain (settled : scene.watcher.IsSettled) (same : scene.plain = other.plain)
    (deeds : List Deed) :
    (scene.following deeds).plain = (other.following (deeds.filter Deed.isMove)).plain ∧
      told deeds scene = told (deeds.filter Deed.isMove) other := by
  induction deeds generalizing scene other with
  | nil => exact ⟨same, rfl⟩
  | cons deed deeds inductionHypothesis =>
      have still := settled.of_setup (deed_setup settled deed)
      cases deed with
      | prepare => exact inductionHypothesis still ((prepare_plain settled).trans same)
      | move move =>
          rcases inductionHypothesis still (plain_panorama.move move same) with ⟨left, rest⟩
          refine ⟨left, ?_⟩
          have told : (Deed.move move).told? scene = (Deed.move move).told? other := by
            cases move with
            | poll => exact congrArg some (plain_panorama.poll_decided scene other same).valueOf_eq
            | cancel => rfl
            | reset => rfl
          exact congrArg₂ (fun first rest => first.toList ++ rest) told rest

end Scene

/-! ## The law of preparing again -/

/-- A preparation in a later scene asks for the client that the first one asked for, with the same target and
the same credentials, and leaves the watcher as it is, with the region and the interval of the first. -/
structure Scene.FindsSame (first later : Scene) : Prop where
  target : later.watcher.target.completed = first.watcher.target.completed
  credentials : later.watcher.foundCredentials = first.watcher.foundCredentials
  calls : (stateOf (prepare later)).calls = later.calls ++
    if first.watcher.buildsClient then [.client first.watcher.clientOptions] else []
  watcher : (stateOf (prepare later)).watcher = later.watcher
  region : later.watcher.target.regionInUse = first.watcher.target.completed.regionInUse
  interval : later.watcher.interval = first.watcher.target.intervalInUse

/-- What a watcher was set up to by its first preparation lasts, and it is what a later one finds. -/
theorem Scene.findsSame_of_setup {first later : Scene} (named : first.watcher.target.NamesObject)
    (same : later.watcher.setup = first.watcher.configured.connected.setup) : first.FindsSame later := by
  have settled := (isSettled_configured named).of_setup same
  rcases parts_of_setup same with ⟨target, environment, builds, interval⟩
  have completed : later.watcher.target.completed = first.watcher.target.completed :=
    settled.completed.trans target
  have credentials : later.watcher.foundCredentials = first.watcher.foundCredentials := by
    unfold foundCredentials
    rw [completed, environment]
    rfl
  have options : later.watcher.clientOptions = first.watcher.clientOptions := by
    unfold clientOptions
    rw [completed, credentials]
  refine ⟨completed, credentials, ?_, prepare_watcher settled, congrArg Target.regionInUse target, interval⟩
  rcases (preparation_course later).calls with ⟨_, unnamed⟩ | ⟨calls, _⟩
  · exact absurd settled.named unnamed
  · rw [calls, builds, options]
    rfl

/-- A preparation, however it ends, touches nothing that the watcher remembers or has counted, and does not
touch its pause.  Once a preparation has succeeded, every later one, whatever the caller has done meanwhile,
asks for a client with the same target and the same credentials and leaves the watcher as it is.  So what
polls tell, and the scene without what only preparations leave there, with all its requests and waits and
with the watcher itself, are the same in the end as they are without these preparations.  A preparation that
finds an error in the configuration leaves the whole scene as it was, and asks for no client. -/
theorem preparing_again_changes_nothing :
    (forall scene : Scene,
      (stateOf (prepare scene)).watcher.progress = scene.watcher.progress ∧
        (stateOf (prepare scene)).watcher.tally = scene.watcher.tally ∧
        (stateOf (prepare scene)).watcher.pause = scene.watcher.pause) ∧
    (forall first ready : Scene, prepare first = .ok () ready -> forall deeds : List Deed,
      first.FindsSame (ready.following deeds) ∧
        (ready.following deeds).plain = (ready.following (deeds.filter Deed.isMove)).plain ∧
        Scene.told deeds ready = Scene.told (deeds.filter Deed.isMove) ready) ∧
    (forall (scene after : Scene) (failure : Failure), scene.FailsAbroad ->
      prepare scene = .error failure after -> failure.report.watchKind? = some .configuration ->
      after = scene) := by
  refine ⟨fun scene => ?_, fun first ready succeeded deeds => ?_, fun scene after failure abroad failed => ?_⟩
  · rcases (preparation_course scene).keeps with ⟨pause, progress, tally⟩
    exact ⟨progress, tally, pause⟩
  · have course := preparation_course first
    rw [succeeded] at course
    cases course with
    | prepared named built =>
        have watcher := first.equipped_watcher
        have settled : first.equipped.watcher.IsSettled := watcher ▸ isSettled_configured named
        have setup := Scene.following_setup settled deeds
        rw [watcher] at setup
        exact ⟨Scene.findsSame_of_setup named setup, Scene.following_plain settled rfl deeds⟩
  · exact Scene.unchanged_of_misconfigured abroad failed

/-- A watcher that builds its client itself.  The second attempt to do so fails.  The first version of its
object is no gzip file, and while the second is announced, the watcher is cancelled. -/
def renewable : Scene where
  watcher :=
    { target := { bucket := "b", key := "k.gz" }
      environment := [("AWS_ACCESS_KEY", "a"), ("AWS_SECRET_ACCESS_KEY", "s")]
      buildsClient := true }
  around :=
    { remote :=
        { heads :=
            [{ outcome := .ok { tag := some "first" } },
              { interruption := { cancels := true }, outcome := .ok { tag := some "second" } },
              { outcome := .ok { tag := some "third" } }]
          gets :=
            [{ outcome := .ok { body := some (.ofBytes [1, 2]) } },
              { outcome := .ok { body := some (.ofBytes [3]) } }]
          clients := [none, some (.badValue "no certificates")] } }

/-- The watcher is prepared before the first poll, after decoding was given up, and after it was cancelled.
Without a bucket it cannot be prepared at all. -/
theorem preparing_again_changes_nothing_in_between :
    prepare renewable = .ok () renewable.equipped ∧
      (renewable.equipped.following [.prepare, .move .poll, .prepare]).watcher.progress.decodeState =
        .disabled ∧
      (renewable.equipped.following
          [.prepare, .move .poll, .prepare, .move .poll, .prepare, .move .reset, .move .poll]).plain =
        (renewable.equipped.following [.move .poll, .move .poll, .move .reset, .move .poll]).plain ∧
      Scene.told [.prepare, .move .poll, .prepare, .move .poll, .prepare, .move .reset, .move .poll]
          renewable.equipped =
        Scene.told [.move .poll, .move .poll, .move .reset, .move .poll] renewable.equipped ∧
      exists after,
        prepare { renewable with watcher.target.bucket := "" } = .error .bucketMissing after ∧
          after = { renewable with watcher.target.bucket := "" } := by
  have succeeded : prepare renewable = .ok () renewable.equipped := rfl
  rcases preparing_again_changes_nothing with ⟨_, again, misconfigured⟩
  rcases again renewable renewable.equipped succeeded
    [.prepare, .move .poll, .prepare, .move .poll, .prepare, .move .reset, .move .poll] with ⟨_, plain, told⟩
  refine ⟨succeeded, by decide +kernel, plain, told, _, rfl, misconfigured _ _ .bucketMissing ?_ rfl rfl⟩
  intro fault fails
  cases fails

end ObjectWatch
