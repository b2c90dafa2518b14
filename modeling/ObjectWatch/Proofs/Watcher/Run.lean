import ObjectWatch.Proofs.Watcher.Course

/-!
# Runs of a watcher

A caller polls, cancels the watcher and resets its pause, in any order.  `run` is what becomes of a
scene meanwhile.  Between two scenes of a run the store has given some of its replies; `Given` names
them, separately for the two requests, and is put together along a run.

For each path of a poll it is said here which requests it sends, which replies it is given, and which
token is remembered in the end.
-/

namespace ObjectWatch

/-- What a caller does with a watcher. -/
inductive Move where
  | poll
  | cancel
  | reset
deriving DecidableEq, Repr

namespace Move

/-- The scene after a move.  Whatever a poll ends with, it leaves a scene. -/
def apply : Move -> Scene -> Scene
  | poll, scene => stateOf (Watcher.poll scene)
  | cancel, scene => scene.cancel
  | reset, scene => scene.resetPause

end Move

namespace Scene

/-- The scene after moves, the first of them first. -/
def run (moves : List Move) (scene : Scene) : Scene :=
  moves.foldl (fun scene move => move.apply scene) scene

@[simp] theorem run_nil (scene : Scene) : scene.run [] = scene := rfl

@[simp] theorem run_cons (move : Move) (moves : List Move) (scene : Scene) :
    scene.run (move :: moves) = (move.apply scene).run moves := rfl

/-- How many requests for metadata were sent. -/
def heads (scene : Scene) : Nat := scene.calls.countP Call.isHead

/-- How many requests for content were sent. -/
def gets (scene : Scene) : Nat := scene.calls.countP Call.isGet

end Scene

/-- The replies that the store gave between two scenes. -/
structure Given (before after : Scene) (heads : List (Reply Metadata))
    (gets : List (Reply Delivery)) : Prop where
  heads : before.around.remote.heads = heads ++ after.around.remote.heads
  gets : before.around.remote.gets = gets ++ after.around.remote.gets

namespace Given

theorem of_same {before after : Scene} (same : after.around.remote = before.around.remote) :
    Given before after [] [] :=
  ⟨by rw [same]; rfl, by rw [same]; rfl⟩

theorem trans {first second third : Scene} {heads moreHeads : List (Reply Metadata)}
    {gets moreGets : List (Reply Delivery)} (left : Given first second heads gets)
    (right : Given second third moreHeads moreGets) :
    Given first third (heads ++ moreHeads) (gets ++ moreGets) :=
  ⟨by rw [left.heads, right.heads, List.append_assoc],
    by rw [left.gets, right.gets, List.append_assoc]⟩

/-- The replies between two scenes are determined by the scenes. -/
theorem unique {before after : Scene} {heads otherHeads : List (Reply Metadata)}
    {gets otherGets : List (Reply Delivery)} (left : Given before after heads gets)
    (right : Given before after otherHeads otherGets) : heads = otherHeads ∧ gets = otherGets :=
  ⟨List.append_cancel_right (left.heads.symm.trans right.heads),
    List.append_cancel_right (left.gets.symm.trans right.gets)⟩

end Given

namespace Remote

/-- The first reply in a list of replies, as far as there is one. -/
theorem next_append {α : Type} (replies : List (Reply α)) :
    replies = replies.take 1 ++ (next replies).2 := by
  cases replies with
  | nil => rfl
  | cons reply rest => rfl

end Remote

namespace Scene

theorem given_probed (scene : Scene) :
    Given scene scene.probed (scene.around.remote.heads.take 1) [] :=
  ⟨by rw [probed_remote]; exact Remote.next_append _, by rw [probed_remote]; rfl⟩

theorem given_retrieved (scene : Scene) :
    Given scene scene.retrieved [] (scene.around.remote.gets.take 1) :=
  ⟨by rw [retrieved_remote]; rfl, by rw [retrieved_remote]; exact Remote.next_append _⟩

end Scene

/-! ## What the paths of a poll do -/

namespace OpeningCourse

variable {scene : Scene} {token : String} {body : Body} {encoding : Option String}
  {result : PollEnd}

theorem remote (course : OpeningCourse scene token body encoding result) :
    (stateOf result).around.remote = scene.around.remote := by
  cases course with
  | raw asIs => rfl
  | unpacked stream unpacks opened => rfl
  | broken cause left unpacks failed unrelated => rfl
  | notGzip cause left unpacks failed spoils => exact scene.givenUp_remote cause

theorem calls (course : OpeningCourse scene token body encoding result) :
    (stateOf result).calls = scene.calls := by
  cases course with
  | raw asIs => rfl
  | unpacked stream unpacks opened => rfl
  | broken cause left unpacks failed unrelated => rfl
  | notGzip cause left unpacks failed spoils => exact scene.givenUp_calls cause

theorem token_eq (course : OpeningCourse scene token body encoding result) :
    (stateOf result).watcher.progress.token = scene.watcher.progress.token := by
  cases course with
  | raw asIs => rfl
  | unpacked stream unpacks opened =>
      show scene.watcher.progress.markDecoded.token = _
      unfold Progress.markDecoded
      cases scene.watcher.progress.decodeState <;> rfl
  | broken cause left unpacks failed unrelated => rfl
  | notGzip cause left unpacks failed spoils =>
      show (scene.givenUp cause).watcher.progress.token = _
      rw [Scene.givenUp_watcher]
      rfl

theorem target_eq (course : OpeningCourse scene token body encoding result) :
    (stateOf result).watcher.target = scene.watcher.target := by
  cases course with
  | raw asIs => rfl
  | unpacked stream unpacks opened => rfl
  | broken cause left unpacks failed unrelated => rfl
  | notGzip cause left unpacks failed spoils =>
      show (scene.givenUp cause).watcher.target = _
      rw [Scene.givenUp_watcher]

end OpeningCourse

namespace RetrievalCourse

variable {scene : Scene} {token : String} {result : PollEnd}

/-- The requests of a retrieval: none if the poll was cancelled before it, and else one. -/
theorem calls (course : RetrievalCourse scene token result) :
    (stateOf result).calls = scene.calls ++
      if scene.watcher.pause.isCancelled then []
      else [.get scene.watcher.target.bucket scene.watcher.target.key] := by
  cases course with
  | stopped cancelled => simp [stateOf, cancelled]
  | aborted cause free outcome aborts => simp [stateOf, free]
  | failed cause free outcome ordinary => simp [stateOf, free]
  | delivered body encoding result free outcome course =>
      rw [course.calls]
      simp [free]

/-- The replies of a retrieval. -/
theorem given (course : RetrievalCourse scene token result) :
    Given scene (stateOf result) []
      (if scene.watcher.pause.isCancelled then [] else scene.around.remote.gets.take 1) := by
  have answered := scene.given_retrieved
  cases course with
  | stopped cancelled =>
      rw [if_pos cancelled]
      exact .of_same rfl
  | aborted cause free outcome aborts =>
      rw [if_neg (by rw [free]; exact Bool.false_ne_true)]
      exact answered
  | failed cause free outcome ordinary =>
      rw [if_neg (by rw [free]; exact Bool.false_ne_true)]
      exact ⟨answered.heads, answered.gets⟩
  | delivered body encoding result free outcome course =>
      rw [if_neg (by rw [free]; exact Bool.false_ne_true)]
      have rest : Given scene.retrieved (stateOf result) [] [] := .of_same course.remote
      simpa using answered.trans rest

theorem token_eq (course : RetrievalCourse scene token result) :
    (stateOf result).watcher.progress.token = scene.watcher.progress.token := by
  cases course with
  | stopped cancelled => rfl
  | aborted cause free outcome aborts => simp [stateOf]
  | failed cause free outcome ordinary => simp [stateOf]
  | delivered body encoding result free outcome course =>
      rw [course.token_eq]
      simp

theorem target_eq (course : RetrievalCourse scene token result) :
    (stateOf result).watcher.target = scene.watcher.target := by
  cases course with
  | stopped cancelled => rfl
  | aborted cause free outcome aborts => simp [stateOf]
  | failed cause free outcome ordinary => simp [stateOf]
  | delivered body encoding result free outcome course =>
      rw [course.target_eq]
      simp

end RetrievalCourse

namespace ProbeCourse

variable {scene : Scene} {result : PollEnd}

/-- The reply to the probe, and at most one reply to a request for content. -/
theorem given (course : ProbeCourse scene result) :
    exists gets, Given scene (stateOf result) (scene.around.remote.heads.take 1) gets := by
  have answered := scene.given_probed
  cases course with
  | aborted cause outcome aborts => exact ⟨[], answered⟩
  | failed cause outcome ordinary => exact ⟨[], answered.heads, answered.gets⟩
  | unchanged metadata outcome known => exact ⟨[], answered.heads, answered.gets⟩
  | changed metadata result outcome new course =>
      have step : Given scene (stateOf result) _ _ :=
        answered.trans (.mk course.given.heads course.given.gets)
      rw [List.append_nil] at step
      exact ⟨_, step⟩

/-- The token that is remembered in the end is the one that the probe brought, if it brought one. -/
theorem token_eq (course : ProbeCourse scene result) :
    (stateOf result).watcher.progress.token =
      match scene.headReply.outcome with
      | .ok metadata => metadata.token
      | .error _ => scene.watcher.progress.token := by
  cases course with
  | aborted cause outcome aborts => simp [outcome, stateOf]
  | failed cause outcome ordinary => simp [outcome, stateOf]
  | unchanged metadata outcome known => simp [outcome, stateOf, known]
  | changed metadata result outcome new course =>
      rw [course.token_eq, outcome]
      simp [Progress.commit]

theorem target_eq (course : ProbeCourse scene result) :
    (stateOf result).watcher.target = scene.watcher.target := by
  cases course with
  | aborted cause outcome aborts => simp [stateOf]
  | failed cause outcome ordinary => simp [stateOf]
  | unchanged metadata outcome known => simp [stateOf]
  | changed metadata result outcome new course =>
      rw [course.target_eq]
      simp

end ProbeCourse

namespace Scene

/-- Whether the reply to the next probe brings a token that the watcher does not remember, and does
not come with a cancellation. -/
def BringsChange (scene : Scene) : Prop :=
  (exists metadata, scene.headReply.outcome = .ok metadata ∧
    metadata.token ≠ scene.watcher.progress.token) ∧
  scene.headReply.interruption.cancelsIn scene.around.stopper = false

end Scene

namespace ProbeCourse

variable {scene : Scene} {result : PollEnd}

theorem heads_eq (course : ProbeCourse scene result) :
    (stateOf result).heads = scene.heads + 1 := by
  cases course with
  | aborted cause outcome aborts => simp [stateOf, Scene.heads, Call.isHead]
  | failed cause outcome ordinary => simp [stateOf, Scene.heads, Call.isHead]
  | unchanged metadata outcome known => simp [stateOf, Scene.heads, Call.isHead]
  | changed metadata result outcome new course =>
      unfold Scene.heads
      rw [course.calls]
      split <;> simp [Call.isHead, List.countP_cons]

/-- A probe is followed by a retrieval exactly when it brings a change. -/
theorem gets_eq (course : ProbeCourse scene result)
    (free : scene.watcher.pause.isCancelled = false) :
    (scene.BringsChange ∧ (stateOf result).gets = scene.gets + 1) ∨
      (¬ scene.BringsChange ∧ (stateOf result).gets = scene.gets) := by
  cases course with
  | aborted cause outcome aborts =>
      exact Or.inr ⟨by simp [Scene.BringsChange, outcome], by simp [stateOf, Scene.gets, Call.isGet]⟩
  | failed cause outcome ordinary =>
      exact Or.inr ⟨by simp [Scene.BringsChange, outcome], by simp [stateOf, Scene.gets, Call.isGet]⟩
  | unchanged metadata outcome known =>
      exact Or.inr ⟨by simp [Scene.BringsChange, outcome, known],
        by simp [stateOf, Scene.gets, Call.isGet]⟩
  | changed metadata result outcome new course =>
      unfold Scene.gets
      rw [course.calls]
      cases cancels : scene.headReply.interruption.cancelsIn scene.around.stopper with
      | true =>
          refine Or.inr ⟨by simp [Scene.BringsChange, cancels], ?_⟩
          simp [cancels, Pause.cancel, Call.isGet]
      | false =>
          refine Or.inl ⟨⟨⟨metadata, outcome, new⟩, cancels⟩, ?_⟩
          simp [cancels, free, Call.isGet]

end ProbeCourse
end ObjectWatch
