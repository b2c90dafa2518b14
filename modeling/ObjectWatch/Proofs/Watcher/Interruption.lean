import ObjectWatch.Watcher.Poll
import ObjectWatch.Proofs.Attempt

/-!
# What an interruption can change

While a watcher waits or awaits a reply, the pause may be cancelled and the service may be asked to
stop.  Either leaves its notices in the journal and can cancel the pause; a request to stop also
tells the service not to go on.  Nothing else changes: what the watcher remembers, its counters, the
replies that are still to come, the clock and the calls made so far are as they were.

The statements give the whole watcher after an interruption, and the parts of the surroundings
one by one.
-/

namespace ObjectWatch

namespace Interruption

/-- Whether an interruption cancels the pause of a watcher whose service is reached in the given way.
A request to stop goes through the service and is lost where there is none. -/
def cancelsIn (interruption : Interruption) (stopper : Stopper) : Bool :=
  interruption.cancels || (interruption.stops && stopper != .absent)

end Interruption

namespace Call

/-- Whether a call asks for metadata. -/
def isHead : Call -> Bool
  | .head _ _ => true
  | _ => false

/-- Whether a call asks for content. -/
def isGet : Call -> Bool
  | .get _ _ => true
  | _ => false

end Call

namespace Journal

/-- How many requests for metadata were sent. -/
def heads (journal : Journal) : Nat := (calls journal).countP Call.isHead

/-- How many requests for content were sent. -/
def gets (journal : Journal) : Nat := (calls journal).countP Call.isGet

@[simp] theorem calls_append_notice (journal : Journal) (notice : Notice) :
    calls (journal ++ [.notice notice]) = calls journal := by
  rw [calls_append]
  exact List.append_nil _

@[simp] theorem calls_append_call (journal : Journal) (call : Call) :
    calls (journal ++ [.call call]) = calls journal ++ [call] :=
  calls_append journal [.call call]

end Journal

namespace Scene

/-- The calls made so far. -/
def calls (scene : Scene) : List Call := scene.around.journal.calls

/-! ## Notices and calls -/

@[simp] theorem note_watcher (notice : Notice) (scene : Scene) :
    (scene.note notice).watcher = scene.watcher := rfl

@[simp] theorem note_remote (notice : Notice) (scene : Scene) :
    (scene.note notice).around.remote = scene.around.remote := rfl

@[simp] theorem note_stopper (notice : Notice) (scene : Scene) :
    (scene.note notice).around.stopper = scene.around.stopper := rfl

@[simp] theorem note_calls (notice : Notice) (scene : Scene) :
    (scene.note notice).calls = scene.calls :=
  Journal.calls_append_notice _ notice

@[simp] theorem called_watcher (call : Call) (scene : Scene) :
    (scene.called call).watcher = scene.watcher := rfl

@[simp] theorem called_remote (call : Call) (scene : Scene) :
    (scene.called call).around.remote = scene.around.remote := rfl

@[simp] theorem called_stopper (call : Call) (scene : Scene) :
    (scene.called call).around.stopper = scene.around.stopper := rfl

@[simp] theorem called_calls (call : Call) (scene : Scene) :
    (scene.called call).calls = scene.calls ++ [call] :=
  Journal.calls_append_call _ call

/-! ## Cancelling and stopping -/

@[simp] theorem cancelPause_watcher (scene : Scene) :
    scene.cancelPause.watcher = { scene.watcher with pause := scene.watcher.pause.cancel } := rfl

@[simp] theorem cancelPause_around (scene : Scene) :
    scene.cancelPause.around = scene.around := rfl

@[simp] theorem cancelPause_calls (scene : Scene) : scene.cancelPause.calls = scene.calls := rfl

@[simp] theorem resetPause_watcher (scene : Scene) :
    scene.resetPause.watcher = { scene.watcher with pause := scene.watcher.pause.reset } := rfl

@[simp] theorem resetPause_around (scene : Scene) : scene.resetPause.around = scene.around := rfl

@[simp] theorem resetPause_calls (scene : Scene) : scene.resetPause.calls = scene.calls := rfl

@[simp] theorem cancel_watcher (scene : Scene) :
    scene.cancel.watcher = { scene.watcher with pause := scene.watcher.pause.cancel } := rfl

@[simp] theorem cancel_remote (scene : Scene) :
    scene.cancel.around.remote = scene.around.remote := rfl

@[simp] theorem cancel_stopper (scene : Scene) :
    scene.cancel.around.stopper = scene.around.stopper := rfl

@[simp] theorem cancel_calls (scene : Scene) : scene.cancel.calls = scene.calls :=
  note_calls (.cancelling scene.watcher.target.key) scene

@[simp] theorem stop_watcher (scene : Scene) :
    scene.stop.watcher = { scene.watcher with pause := scene.watcher.pause.cancel } := rfl

@[simp] theorem stop_remote (scene : Scene) :
    scene.stop.around.remote = scene.around.remote := rfl

@[simp] theorem stop_stopper (scene : Scene) :
    scene.stop.around.stopper = scene.around.stopper := rfl

@[simp] theorem stop_calls (scene : Scene) : scene.stop.calls = scene.calls :=
  (cancel_calls _).trans (note_calls .stopping scene)

/-! ## Requests to stop -/

theorem requestStop_watcher (scene : Scene) :
    scene.requestStop.watcher =
      { scene.watcher with
        pause := if scene.around.stopper = .absent then scene.watcher.pause
          else scene.watcher.pause.cancel } := by
  unfold requestStop
  cases scene.around.stopper with
  | absent => rfl
  | direct => rfl
  | signal number => rfl

@[simp] theorem requestStop_remote (scene : Scene) :
    scene.requestStop.around.remote = scene.around.remote := by
  unfold requestStop
  cases scene.around.stopper with
  | absent => rfl
  | direct => rfl
  | signal number => rfl

@[simp] theorem requestStop_stopper (scene : Scene) :
    scene.requestStop.around.stopper = scene.around.stopper := by
  unfold requestStop
  cases reached : scene.around.stopper with
  | absent => exact reached
  | direct => exact reached
  | signal number => exact reached

@[simp] theorem requestStop_clock (scene : Scene) :
    scene.requestStop.around.clock = scene.around.clock := by
  unfold requestStop
  cases scene.around.stopper <;> rfl

@[simp] theorem requestStop_nextWaitCancelled (scene : Scene) :
    scene.requestStop.around.nextWaitCancelled = scene.around.nextWaitCancelled := by
  unfold requestStop
  cases scene.around.stopper <;> rfl

@[simp] theorem requestStop_calls (scene : Scene) : scene.requestStop.calls = scene.calls := by
  unfold requestStop
  cases scene.around.stopper with
  | absent => rfl
  | direct => exact stop_calls scene
  | signal number => exact (stop_calls _).trans (note_calls _ scene)

/-! ## Interruptions of a request and of a wait -/

/-- An interrupted watcher is the same watcher, but for its pause. -/
theorem interrupt_watcher (interruption : Interruption) (scene : Scene) :
    (scene.interrupt interruption).watcher =
      { scene.watcher with
        pause := if interruption.cancelsIn scene.around.stopper then scene.watcher.pause.cancel
          else scene.watcher.pause } := by
  rcases interruption with ⟨cancels, stops⟩
  cases cancels <;> cases stops <;> cases reached : scene.around.stopper <;>
    simp [interrupt, Interruption.cancelsIn, requestStop_watcher, reached, Pause.cancel]

@[simp] theorem interrupt_remote (interruption : Interruption) (scene : Scene) :
    (scene.interrupt interruption).around.remote = scene.around.remote := by
  rcases interruption with ⟨cancels, stops⟩
  cases cancels <;> cases stops <;> simp [interrupt]

@[simp] theorem interrupt_stopper (interruption : Interruption) (scene : Scene) :
    (scene.interrupt interruption).around.stopper = scene.around.stopper := by
  rcases interruption with ⟨cancels, stops⟩
  cases cancels <;> cases stops <;> simp [interrupt]

@[simp] theorem interrupt_clock (interruption : Interruption) (scene : Scene) :
    (scene.interrupt interruption).around.clock = scene.around.clock := by
  rcases interruption with ⟨cancels, stops⟩
  cases cancels <;> cases stops <;> simp [interrupt]

@[simp] theorem interrupt_nextWaitCancelled (interruption : Interruption) (scene : Scene) :
    (scene.interrupt interruption).around.nextWaitCancelled = scene.around.nextWaitCancelled := by
  rcases interruption with ⟨cancels, stops⟩
  cases cancels <;> cases stops <;> simp [interrupt]

@[simp] theorem interrupt_calls (interruption : Interruption) (scene : Scene) :
    (scene.interrupt interruption).calls = scene.calls := by
  rcases interruption with ⟨cancels, stops⟩
  cases cancels <;> cases stops <;> simp [interrupt]

/-- During a wait the pause is cancelled if that was announced, or if a service is asked to stop
because its store has fallen silent. -/
theorem interruptWait_watcher (scene : Scene) :
    scene.interruptWait.watcher =
      { scene.watcher with
        pause := if scene.around.nextWaitCancelled ||
            (scene.around.remote.isSilent && scene.around.stopper != .absent)
          then scene.watcher.pause.cancel else scene.watcher.pause } := by
  unfold interruptWait
  cases scene.around.nextWaitCancelled <;> cases silent : scene.around.remote.isSilent <;>
    cases reached : scene.around.stopper <;>
    simp [silent, reached, requestStop_watcher, Pause.cancel]

@[simp] theorem interruptWait_remote (scene : Scene) :
    scene.interruptWait.around.remote = scene.around.remote := by
  unfold interruptWait
  cases scene.around.nextWaitCancelled <;> cases silent : scene.around.remote.isSilent <;>
    simp [silent]

@[simp] theorem interruptWait_stopper (scene : Scene) :
    scene.interruptWait.around.stopper = scene.around.stopper := by
  unfold interruptWait
  cases scene.around.nextWaitCancelled <;> cases silent : scene.around.remote.isSilent <;>
    simp [silent]

@[simp] theorem interruptWait_calls (scene : Scene) :
    scene.interruptWait.calls = scene.calls := by
  unfold interruptWait
  cases scene.around.nextWaitCancelled <;> cases silent : scene.around.remote.isSilent
  · simp [silent]
  · simp [silent]
  · simp only [if_true, cancelPause_around, silent, Bool.false_eq_true, if_false]
    rfl
  · simp only [if_true, cancelPause_around, silent, requestStop_calls]
    rfl

end Scene
end ObjectWatch
