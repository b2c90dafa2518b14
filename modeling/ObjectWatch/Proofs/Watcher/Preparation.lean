import ObjectWatch.Proofs.Watcher.Interruption

/-!
# Preparing a watcher

A watcher is prepared in three steps: its target is checked, what the target leaves open is filled in,
and a client is built if the watcher builds one itself.  `PreparationCourse` lists the ends that this can
have together with the scene that each of them leaves, and `preparation_course` says that there are no
others.

A target that is not complete is found before anything has changed.  A client that cannot be built is
found later, and then the watcher is configured already; it can poll with the client that it had before,
if it had one.  No end touches what the watcher remembers, its counters and its pause.
-/

namespace ObjectWatch

open Watcher

/-- A target names an object. -/
def Target.NamesObject (target : Target) : Prop := target.bucket ≠ "" ∧ target.key ≠ ""

namespace Scene

/-- The watcher was configured, and a client was asked for if the watcher builds it. -/
def connecting (scene : Scene) : Scene :=
  let configured := { scene with watcher := scene.watcher.configured }
  if scene.watcher.buildsClient then
    { configured.recorded
        (.ofClient scene.watcher.clientOptions scene.watcher.foundCredentials.source) with
      around.remote := scene.around.remote.client.2 }
  else configured

/-- The watcher was prepared. -/
def equipped (scene : Scene) : Scene :=
  { scene.connecting with watcher := scene.connecting.watcher.connected }.note
    (.watcherPrepared scene.watcher.target.bucket scene.watcher.target.key
      scene.watcher.target.completed.regionInUse scene.watcher.target.intervalInUse
      scene.watcher.foundCredentials.source scene.watcher.target.embeddedCertificates)

/-- The fault with which the client fails that the watcher builds, if it builds one and that fails. -/
def clientFault? (scene : Scene) : Option Fault :=
  if scene.watcher.buildsClient then scene.around.remote.client.1 else none

/-! ## The parts of these scenes -/

variable (scene : Scene)

@[simp] theorem connecting_watcher : scene.connecting.watcher = scene.watcher.configured := by
  unfold connecting
  cases scene.watcher.buildsClient <;> rfl

@[simp] theorem equipped_watcher :
    scene.equipped.watcher = scene.watcher.configured.connected :=
  congrArg Watcher.connected scene.connecting_watcher

/-- Building a client takes no reply of the store. -/
theorem connecting_remote :
    scene.connecting.around.remote.heads = scene.around.remote.heads ∧
      scene.connecting.around.remote.gets = scene.around.remote.gets := by
  unfold connecting
  cases scene.watcher.buildsClient <;> exact ⟨rfl, rfl⟩

theorem equipped_remote :
    scene.equipped.around.remote.heads = scene.around.remote.heads ∧
      scene.equipped.around.remote.gets = scene.around.remote.gets :=
  scene.connecting_remote

/-- A preparation leaves the way alone in which requests to stop arrive. -/
theorem equipped_stopper : scene.equipped.around.stopper = scene.around.stopper := by
  unfold equipped connecting
  cases scene.watcher.buildsClient <;> rfl

/-- A client is asked for at most once, and nothing else is called. -/
theorem connecting_calls :
    scene.connecting.calls =
      scene.calls ++ if scene.watcher.buildsClient then [.client scene.watcher.clientOptions] else [] := by
  unfold connecting
  cases scene.watcher.buildsClient with
  | true => exact Journal.calls_append _ _
  | false => exact (List.append_nil _).symm

theorem equipped_calls :
    scene.equipped.calls =
      scene.calls ++ if scene.watcher.buildsClient then [.client scene.watcher.clientOptions] else [] :=
  (note_calls _ _).trans scene.connecting_calls

end Scene

/-! ## The ends of a preparation -/

/-- How the end of a preparation looks. -/
abbrev PreparationEnd := EStateM.Result Failure Scene Unit

/-- The ends that a preparation can have. -/
inductive PreparationCourse (scene : Scene) : PreparationEnd -> Prop where
  | bucketMissing (missing : scene.watcher.target.bucket = "") :
      PreparationCourse scene (.error .bucketMissing scene)
  | keyMissing (found : scene.watcher.target.bucket ≠ "")
      (missing : scene.watcher.target.key = "") :
      PreparationCourse scene (.error .keyMissing scene)
  | clientFailed (fault : Fault) (named : scene.watcher.target.NamesObject)
      (builds : scene.watcher.buildsClient = true)
      (fails : scene.around.remote.client.1 = some fault) :
      PreparationCourse scene (.error (.foreign fault) scene.connecting)
  | prepared (named : scene.watcher.target.NamesObject)
      (built : scene.watcher.buildsClient = true -> scene.around.remote.client.1 = none) :
      PreparationCourse scene (.ok () scene.equipped)

theorem buildClient_apply (options : ClientOptions) (source : String) (scene : Scene) :
    buildClient options source scene =
      match scene.around.remote.client.1 with
      | some fault => .error (.foreign fault)
          { scene.recorded (.ofClient options source) with
            around.remote := scene.around.remote.client.2 }
      | none => .ok ()
          { scene.recorded (.ofClient options source) with
            around.remote := scene.around.remote.client.2 } := by
  have same : (scene.recorded (.ofClient options source)).around.remote = scene.around.remote := rfl
  unfold buildClient
  rw [bind_apply, modify_apply]
  dsimp only
  rw [bind_apply, get_apply]
  dsimp only
  rw [same]
  cases scene.around.remote.client.1 with
  | some fault => rfl
  | none => rfl

/-- Every preparation has one of the ends, and leaves the scene that it says. -/
theorem preparation_course (scene : Scene) : PreparationCourse scene (prepare scene) := by
  unfold prepare
  rw [bind_apply, get_apply]
  dsimp only
  by_cases noBucket : scene.watcher.target.bucket = ""
  · rw [if_pos noBucket]
    exact .bucketMissing noBucket
  · rw [if_neg noBucket]
    by_cases noKey : scene.watcher.target.key = ""
    · rw [if_pos noKey]
      exact .keyMissing noBucket noKey
    · rw [if_neg noKey]
      have named : scene.watcher.target.NamesObject := ⟨noBucket, noKey⟩
      have configured : update Watcher.configured scene =
          .ok () { scene with watcher := scene.watcher.configured } := rfl
      rw [bind_of_ok configured]
      cases builds : scene.watcher.buildsClient with
      | false =>
          have built : scene.watcher.buildsClient = true ->
              scene.around.remote.client.1 = none := fun builder => by
            rw [builds] at builder
            cases builder
          have course := PreparationCourse.prepared named built
          unfold Scene.equipped Scene.connecting at course
          rw [builds] at course
          exact course
      | true =>
          rw [if_pos rfl]
          have attempt := buildClient_apply scene.watcher.clientOptions scene.watcher.foundCredentials.source
            { scene with watcher := scene.watcher.configured }
          cases failure : scene.around.remote.client.1 with
          | some fault =>
              have course := PreparationCourse.clientFailed fault named builds failure
              unfold Scene.connecting at course
              rw [builds] at course
              rw [failure] at attempt
              rw [bind_of_error attempt]
              exact course
          | none =>
              have course := PreparationCourse.prepared named fun _ => failure
              unfold Scene.equipped Scene.connecting at course
              rw [builds] at course
              rw [failure] at attempt
              rw [bind_of_ok attempt]
              exact course

/-- Which of the ends a preparation has. -/
theorem prepare_apply (scene : Scene) :
    prepare scene =
      if scene.watcher.target.bucket = "" then .error .bucketMissing scene
      else if scene.watcher.target.key = "" then .error .keyMissing scene
      else match scene.clientFault? with
        | some fault => .error (.foreign fault) scene.connecting
        | none => .ok () scene.equipped := by
  have course := preparation_course scene
  generalize prepare scene = result at course
  cases course with
  | bucketMissing missing => rw [if_pos missing]
  | keyMissing found missing => rw [if_neg found, if_pos missing]
  | clientFailed fault named builds fails =>
      have failed : scene.clientFault? = some fault := (if_pos builds).trans fails
      rw [if_neg named.1, if_neg named.2, failed]
  | prepared named built =>
      have unfailed : scene.clientFault? = none := by
        unfold Scene.clientFault?
        split
        · exact built ‹_›
        · rfl
      rw [if_neg named.1, if_neg named.2, unfailed]

namespace PreparationCourse

variable {scene : Scene} {result : PreparationEnd}

/-- What a watcher remembers, its counters and its pause have no part in its preparation. -/
theorem keeps (course : PreparationCourse scene result) :
    (stateOf result).watcher.pause = scene.watcher.pause ∧
      (stateOf result).watcher.progress = scene.watcher.progress ∧
      (stateOf result).watcher.tally = scene.watcher.tally := by
  cases course with
  | bucketMissing missing => exact ⟨rfl, rfl, rfl⟩
  | keyMissing found missing => exact ⟨rfl, rfl, rfl⟩
  | clientFailed fault named builds fails =>
      rw [stateOf, scene.connecting_watcher]
      exact ⟨rfl, rfl, rfl⟩
  | prepared named built =>
      rw [stateOf, scene.equipped_watcher]
      exact ⟨rfl, rfl, rfl⟩

/-- A watcher that can poll still can, however it is prepared again. -/
theorem isPrepared (course : PreparationCourse scene result)
    (prepared : scene.watcher.isPrepared = true) :
    (stateOf result).watcher.isPrepared = true := by
  cases course with
  | bucketMissing missing => exact prepared
  | keyMissing found missing => exact prepared
  | clientFailed fault named builds fails =>
      rw [stateOf, scene.connecting_watcher]
      unfold Watcher.configured
      rw [prepared]
      rfl
  | prepared named built =>
      rw [stateOf, scene.equipped_watcher]
      rfl

/-- A watcher that was prepared can poll. -/
theorem isPrepared_of_ok {after : Scene} (course : PreparationCourse scene (.ok () after)) :
    after.watcher.isPrepared = true := by
  cases course with
  | prepared named built =>
      rw [scene.equipped_watcher]
      rfl

/-- A preparation asks for a client at most, and for none if the target names no object. -/
theorem calls (course : PreparationCourse scene result) :
    (stateOf result).calls = scene.calls ∧ ¬ scene.watcher.target.NamesObject ∨
      (stateOf result).calls = scene.calls ++
          (if scene.watcher.buildsClient then [.client scene.watcher.clientOptions] else []) ∧
        scene.watcher.target.NamesObject := by
  cases course with
  | bucketMissing missing => exact .inl ⟨rfl, fun named => named.1 missing⟩
  | keyMissing found missing => exact .inl ⟨rfl, fun named => named.2 missing⟩
  | clientFailed fault named builds fails => exact .inr ⟨scene.connecting_calls, named⟩
  | prepared named built => exact .inr ⟨scene.equipped_calls, named⟩

/-- The replies of the store stay as they are. -/
theorem remote (course : PreparationCourse scene result) :
    (stateOf result).around.remote.heads = scene.around.remote.heads ∧
      (stateOf result).around.remote.gets = scene.around.remote.gets := by
  cases course with
  | bucketMissing missing => exact ⟨rfl, rfl⟩
  | keyMissing found missing => exact ⟨rfl, rfl⟩
  | clientFailed fault named builds fails => exact scene.connecting_remote
  | prepared named built => exact scene.equipped_remote

end PreparationCourse
end ObjectWatch
