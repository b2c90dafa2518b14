import ObjectWatch.Proofs.Store.Cover
import ObjectWatch.Proofs.Watcher.Outlook
import ObjectWatch.Proofs.Watcher.Preparation

/-!
# Watchers do not look at keys

A watcher holds keys in its target, in its environment and in its credentials, and a journal holds those with
which clients were asked for.  Cover them all, and what the watcher does is still decided: how it is prepared,
what it calls, notes and returns, and the covered scene that it leaves.

The reason is that everything that is done to a scene can be done to the covered scene instead.  The client
is the only place to which keys go, and what comes back from there is a fault or nothing.
-/

namespace ObjectWatch

open Watcher

/-! ## Covered scenes -/

/-- A call of which the keys are covered. -/
def Call.covered : Call -> Call
  | .client options => .client options.covered
  | call => call

/-- An event of which the keys are covered.  A notice holds none. -/
def Event.covered : Event -> Event
  | .call made => .call made.covered
  | event => event

namespace Journal

/-- A journal in which the keys are covered. -/
def covered (journal : Journal) : Journal := journal.map Event.covered

theorem covered_append (first second : Journal) :
    (first ++ second).covered = first.covered ++ second.covered := List.map_append

end Journal

/-- A watcher of which the keys are covered. -/
def Watcher.covered (watcher : Watcher) : Watcher :=
  { watcher with
    target := watcher.target.covered
    environment := watcher.environment.covered
    credentials := watcher.credentials.map Credentials.covered }

/-- Surroundings in whose journal the keys are covered. -/
def Surroundings.covered (around : Surroundings) : Surroundings :=
  { around with journal := around.journal.covered }

/-- A scene in which the keys are covered. -/
def Scene.covered (scene : Scene) : Scene where
  watcher := scene.watcher.covered
  around := scene.around.covered

namespace Watcher

theorem isPrepared_covered (watcher : Watcher) : watcher.covered.isPrepared = watcher.isPrepared :=
  congrArg (· && !watcher.lacksClient) Option.isSome_map

theorem foundCredentials_covered (watcher : Watcher) :
    watcher.covered.foundCredentials = watcher.foundCredentials.covered :=
  Credentials.resolve_covered watcher.target.completed watcher.environment

theorem source_covered (watcher : Watcher) :
    watcher.covered.foundCredentials.source = watcher.foundCredentials.source := by
  rw [foundCredentials_covered]
  rfl

theorem clientOptions_covered (watcher : Watcher) :
    watcher.covered.clientOptions = watcher.clientOptions.covered := by
  unfold clientOptions
  rw [foundCredentials_covered]
  exact ClientOptions.ofTarget_covered watcher.target.completed watcher.foundCredentials

theorem configured_covered (watcher : Watcher) : watcher.configured.covered = watcher.covered.configured := by
  unfold configured
  rw [foundCredentials_covered, isPrepared_covered]
  rfl

end Watcher

/-- What is not covered can be told from the covered scene. -/
theorem Scene.eq_of_covered {α : Type} (part : Scene -> α)
    (shown : forall scene : Scene, part scene.covered = part scene) {scene other : Scene}
    (same : scene.covered = other.covered) : part scene = part other := by
  rw [← shown scene, same, shown other]

/-! ## What is done to a scene -/

namespace Surroundings

theorem recorded_covered (events : Journal) (around : Surroundings) :
    (around.recorded events).covered = around.covered.recorded events.covered :=
  congrArg (fun journal => { around with journal }) (Journal.covered_append _ _)

theorem note_covered (notice : Notice) (around : Surroundings) :
    (around.note notice).covered = around.covered.note notice :=
  recorded_covered [.notice notice] around

end Surroundings

namespace Scene

theorem recorded_covered (events : Journal) (scene : Scene) :
    (scene.recorded events).covered = scene.covered.recorded events.covered :=
  congrArg (Scene.mk scene.watcher.covered) (scene.around.recorded_covered events)

theorem note_covered (notice : Notice) (scene : Scene) :
    (scene.note notice).covered = scene.covered.note notice := recorded_covered [.notice notice] scene

theorem called_covered (call : Call) (scene : Scene) :
    (scene.called call).covered = scene.covered.called call.covered := recorded_covered [.call call] scene

theorem connecting_covered (scene : Scene) : scene.connecting.covered = scene.covered.connecting := by
  have builds : scene.covered.watcher.buildsClient = scene.watcher.buildsClient := rfl
  have options : scene.covered.watcher.clientOptions = scene.watcher.clientOptions.covered :=
    scene.watcher.clientOptions_covered
  have source : scene.covered.watcher.foundCredentials.source = scene.watcher.foundCredentials.source :=
    scene.watcher.source_covered
  have configured : scene.covered.watcher.configured = scene.watcher.configured.covered :=
    scene.watcher.configured_covered.symm
  unfold connecting
  rw [builds, options, source, configured]
  cases scene.watcher.buildsClient with
  | false => rfl
  | true =>
      have recorded := recorded_covered
        (.ofClient scene.watcher.clientOptions scene.watcher.foundCredentials.source)
        { scene with watcher := scene.watcher.configured }
      exact congrArg (fun recorded : Scene =>
        { recorded with around.remote := scene.around.remote.client.2 }) recorded

theorem equipped_covered (scene : Scene) : scene.equipped.covered = scene.covered.equipped := by
  have source : scene.covered.watcher.foundCredentials.source = scene.watcher.foundCredentials.source :=
    scene.watcher.source_covered
  unfold equipped
  rw [note_covered, ← connecting_covered, source]
  rfl

end Scene

/-! ## Acts -/

open Scene

/-- A poll goes by nothing that is covered, and each change that it makes can be followed. -/
theorem covered_panorama : Panorama Scene.covered where
  note notice := .of_shown (Scene.note notice) (note_covered notice)
  called call := .of_shown (Scene.called call.covered) (called_covered call)
  remembered change := .of_shown (Scene.remembered change) fun _ => rfl
  counted change := .of_shown (Scene.counted change) fun _ => rfl
  cancelPause := .of_shown Scene.cancelPause fun _ => rfl
  resetPause := .of_shown Scene.resetPause fun _ => rfl
  halted := .of_shown (fun scene => { scene with around.running := false }) fun _ => rfl
  announced := .of_shown (fun scene => { scene with around.nextWaitCancelled := false }) fun _ => rfl
  headTaken := .of_shown (fun scene => { scene with around.remote := scene.around.remote.head.2 })
    fun _ => rfl
  getTaken := .of_shown (fun scene => { scene with around.remote := scene.around.remote.get.2 })
    fun _ => rfl
  bucket := eq_of_covered (·.watcher.target.bucket) fun _ => rfl
  key := eq_of_covered (·.watcher.target.key) fun _ => rfl
  prepared := eq_of_covered (·.watcher.isPrepared) fun scene => scene.watcher.isPrepared_covered
  interval := eq_of_covered (·.watcher.interval) fun _ => rfl
  pause := eq_of_covered (·.watcher.pause) fun _ => rfl
  progress := eq_of_covered (·.watcher.progress) fun _ => rfl
  replies same :=
    ⟨eq_of_covered headReply (fun _ => rfl) same, eq_of_covered getReply (fun _ => rfl) same⟩
  silent := eq_of_covered (·.around.remote.isSilent) fun _ => rfl
  stopper := eq_of_covered (·.around.stopper) fun _ => rfl
  announcement := eq_of_covered (·.around.nextWaitCancelled) fun _ => rfl
  clock := eq_of_covered (·.around.clock) fun _ => rfl

namespace Watcher

/-- A poll goes by nothing that is covered. -/
theorem poll_decided : DecidedBy Scene.covered poll := covered_panorama.poll_decided

/-- A preparation goes by nothing that is covered. -/
theorem prepare_decided : DecidedBy Scene.covered prepare := by
  intro scene other same
  have bucket : scene.watcher.target.bucket = other.watcher.target.bucket :=
    eq_of_covered (·.watcher.target.bucket) (fun _ => rfl) same
  have key : scene.watcher.target.key = other.watcher.target.key :=
    eq_of_covered (·.watcher.target.key) (fun _ => rfl) same
  have fault : scene.clientFault? = other.clientFault? := eq_of_covered clientFault? (fun _ => rfl) same
  have connecting : scene.connecting.covered = other.connecting.covered := by
    rw [connecting_covered, connecting_covered, same]
  have equipped : scene.equipped.covered = other.equipped.covered := by
    rw [equipped_covered, equipped_covered, same]
  rw [prepare_apply, prepare_apply, bucket, key, fault]
  split
  · exact .error _ same
  · split
    · exact .error _ same
    · cases other.clientFault? with
      | some fault => exact .error _ connecting
      | none => exact .ok _ equipped

end Watcher
end ObjectWatch
