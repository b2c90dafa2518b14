import ObjectWatch.Proofs.Watcher.Course

/-!
# What a poll does not tell

A service tells what became of a poll: that it failed, that its content could not be written, or that it
was written.  A watcher notes much, but none of this, and neither do the interruptions that reach it.
-/

namespace ObjectWatch

/-- A notice tells what became of a poll of a service. -/
def Notice.isOutcome : Notice -> Bool
  | .pollFailed _ _ => true
  | .writingFailed _ _ => true
  | .written _ _ => true
  | _ => false

/-- A notice tells that a poll failed or that its content could not be written. -/
def Notice.isFailure : Notice -> Bool
  | .pollFailed _ _ => true
  | .writingFailed _ _ => true
  | _ => false

theorem Notice.isOutcome_of_isFailure {notice : Notice} (tells : notice.isFailure = true) :
    notice.isOutcome = true := by
  cases notice <;> first | rfl | cases tells

/-- What a journal tells about what became of polls. -/
def Journal.outcomes (journal : Journal) : List Notice := journal.notices.filter Notice.isOutcome

theorem Journal.outcomes_append (first second : Journal) :
    outcomes (first ++ second) = outcomes first ++ outcomes second := by
  unfold outcomes
  rw [notices_append, List.filter_append]

/-- What was told so far about what became of polls. -/
def Surroundings.outcomes (around : Surroundings) : List Notice := around.journal.outcomes

namespace Surroundings

@[simp] theorem note_outcomes (notice : Notice) (around : Surroundings) :
    (around.note notice).outcomes =
      around.outcomes ++ if notice.isOutcome then [notice] else [] := by
  unfold outcomes note
  rw [Journal.outcomes_append]
  cases told : notice.isOutcome <;> simp [Journal.outcomes, Journal.notices, told]

@[simp] theorem called_outcomes (call : Call) (around : Surroundings) :
    (around.called call).outcomes = around.outcomes := by
  unfold outcomes called
  rw [Journal.outcomes_append]
  exact List.append_nil _

end Surroundings

namespace Scene

/-- What was told so far about what became of polls. -/
def outcomes (scene : Scene) : List Notice := scene.around.outcomes

variable (scene : Scene)

/-- A notice that tells something else. -/
theorem note_outcomes (notice : Notice) (other : notice.isOutcome = false) :
    (scene.note notice).outcomes = scene.outcomes := by
  have noted := scene.around.note_outcomes notice
  rw [other] at noted
  exact noted.trans (List.append_nil _)

@[simp] theorem called_outcomes (call : Call) : (scene.called call).outcomes = scene.outcomes :=
  scene.around.called_outcomes call

@[simp] theorem counted_outcomes (change : Tally -> Tally) :
    (scene.counted change).outcomes = scene.outcomes := rfl

@[simp] theorem remembered_outcomes (change : Progress -> Progress) :
    (scene.remembered change).outcomes = scene.outcomes := rfl

/-! ## Interruptions -/

theorem stop_outcomes : scene.stop.outcomes = scene.outcomes :=
  (note_outcomes _ (.cancelling scene.watcher.target.key) rfl).trans (scene.note_outcomes .stopping rfl)

theorem requestStop_outcomes : scene.requestStop.outcomes = scene.outcomes := by
  unfold requestStop
  cases scene.around.stopper with
  | absent => rfl
  | direct => exact scene.stop_outcomes
  | signal number => exact (stop_outcomes _).trans (scene.note_outcomes (.signalReceived number) rfl)

@[simp] theorem interrupt_outcomes (interruption : Interruption) :
    (scene.interrupt interruption).outcomes = scene.outcomes := by
  rcases interruption with ⟨cancels, stops⟩
  cases cancels <;> cases stops
  · rfl
  · exact scene.requestStop_outcomes
  · rfl
  · exact requestStop_outcomes _

@[simp] theorem interruptWait_outcomes : scene.interruptWait.outcomes = scene.outcomes := by
  have asked : forall other : Scene,
      (if other.around.remote.isSilent then other.requestStop else other).outcomes =
        other.outcomes := by
    intro other
    split
    · exact other.requestStop_outcomes
    · rfl
  unfold interruptWait
  cases scene.around.nextWaitCancelled with
  | true => exact asked _
  | false => exact asked _

/-! ## The scenes of a poll -/

@[simp] theorem waitCalled_outcomes : scene.waitCalled.outcomes = scene.outcomes :=
  scene.called_outcomes _

@[simp] theorem waited_outcomes : scene.waited.outcomes = scene.outcomes :=
  (interruptWait_outcomes _).trans scene.waitCalled_outcomes

@[simp] theorem begun_outcomes : scene.begun.outcomes = scene.outcomes := by
  unfold begun
  cases scene.watcher.progress.hasPolled with
  | true => exact scene.waited_outcomes
  | false => rfl

@[simp] theorem probed_outcomes : scene.probed.outcomes = scene.outcomes :=
  (interrupt_outcomes _ _).trans (scene.called_outcomes _)

@[simp] theorem committed_outcomes (token : String) :
    (scene.committed token).outcomes = scene.outcomes := note_outcomes _ _ rfl

@[simp] theorem retrieved_outcomes : scene.retrieved.outcomes = scene.outcomes :=
  (interrupt_outcomes _ _).trans (scene.called_outcomes _)

@[simp] theorem givenUp_outcomes (cause : Fault) : (scene.givenUp cause).outcomes = scene.outcomes := by
  unfold givenUp
  refine (note_outcomes _ _ rfl).trans ?_
  unfold Notice.ofDisabling?
  cases scene.watcher.progress.mayDecode with
  | true => exact scene.note_outcomes _ rfl
  | false => rfl

end Scene

/-! ## The paths of a poll -/

theorem OpeningCourse.outcomes_eq {scene : Scene} {token : String} {body : Body}
    {encoding : Option String} {result : PollEnd}
    (course : OpeningCourse scene token body encoding result) :
    (stateOf result).outcomes = scene.outcomes := by
  cases course with
  | raw asIs => rfl
  | unpacked stream unpacks opened => rfl
  | broken cause left unpacks failed unrelated => rfl
  | notGzip cause left unpacks failed spoils => exact scene.givenUp_outcomes cause

theorem RetrievalCourse.outcomes_eq {scene : Scene} {token : String} {result : PollEnd}
    (course : RetrievalCourse scene token result) : (stateOf result).outcomes = scene.outcomes := by
  cases course with
  | stopped cancelled => rfl
  | aborted cause free outcome aborts => exact scene.retrieved_outcomes
  | failed cause free outcome ordinary =>
      exact (Scene.note_outcomes _ _ rfl).trans scene.retrieved_outcomes
  | delivered body encoding result free outcome course =>
      exact course.outcomes_eq.trans scene.retrieved_outcomes

theorem ProbeCourse.outcomes_eq {scene : Scene} {result : PollEnd}
    (course : ProbeCourse scene result) : (stateOf result).outcomes = scene.outcomes := by
  cases course with
  | aborted cause outcome aborts => exact scene.probed_outcomes
  | failed cause outcome ordinary =>
      exact (Scene.note_outcomes _ _ rfl).trans scene.probed_outcomes
  | unchanged metadata outcome known =>
      exact (Scene.note_outcomes _ _ rfl).trans scene.probed_outcomes
  | changed metadata result outcome new course =>
      refine course.outcomes_eq.trans ?_
      simp

/-- A poll tells nothing about what became of it. -/
theorem Course.outcomes_eq {scene : Scene} {result : PollEnd} (course : Course scene result) :
    (stateOf result).outcomes = scene.outcomes := by
  cases course with
  | notPrepared unprepared => rfl
  | waitRefused prepared stranded => exact scene.waitCalled_outcomes
  | stoppedWaiting prepared polled paced cancelled => exact scene.waited_outcomes
  | stoppedBefore prepared first cancelled => exact scene.begun_outcomes
  | probing result prepared free course => exact course.outcomes_eq.trans scene.begun_outcomes

end ObjectWatch
