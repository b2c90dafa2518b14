import ObjectWatch.Watcher.Poll
import ObjectWatch.Delivery.Sink

/-!
# The service

A service polls with a watcher and delivers every new version to a sink until it is stopped.

Failures of requests, of decoding and of the transfer are counted and survived: a poll that fails, or
a version that could not be delivered, is one failure, and any other poll sets the count to zero.
When a limit is set and the count reaches it, the service gives up and is marked as failed.  Every
other failure ends the run at once and is told to the caller.

A cancelled poll ends the run in an orderly way.  So does a request to stop, once the poll in
progress has come to its end.
-/

namespace ObjectWatch

open EnvFile (Environment)

/-- A service. -/
structure Service where
  settings : Settings
  /-- The variables among which credentials are looked for. -/
  environment : Environment := []
  watcher : Option Watcher := none
  sink : Option Sink := none
  around : Surroundings := {}
  storage : Storage := {}
  failed : Bool := false
  /-- The number of failures since the last poll that did not fail. -/
  failures : Nat := 0

/-- What a service does. -/
abbrev Serving := EStateM Failure Service

namespace Service

/-- Note something. -/
def note (notice : Notice) : Serving Unit :=
  modify fun service => { service with around := service.around.note notice }

/-- Set whether the service is to go on polling. -/
def setRunning (running : Bool) : Serving Unit :=
  modify fun service => { service with around.running := running }

/-- Put a scene back into the service that it was taken from. -/
def withScene (service : Service) (scene : Scene) : Service :=
  { service with watcher := some scene.watcher, around := scene.around }

/-- Let a watcher act.  The service keeps the watcher as the act leaves it, also when the act
fails. -/
def attempt {α : Type} (watcher : Watcher) (act : Act α) : Serving (Except Failure α) := fun service =>
  match act { watcher, around := service.around } with
  | .ok value scene => .ok (.ok value) (service.withScene scene)
  | .error failure scene => .ok (.error failure) (service.withScene scene)

/-- Deliver content to a sink. -/
def deliver (sink : Sink) (content : Content) : Serving (Except Fault Nat) := fun service =>
  match sink.deliver { content, place := service.storage } with
  | .ok size transfer => .ok (.ok size) { service with storage := transfer.place }
  | .error fault transfer => .ok (.error fault) { service with storage := transfer.place }

/-- The watcher of the service; one is made from the settings if there is none. -/
def ensureWatcher : Serving Watcher := do
  let service <- get
  match service.watcher with
  | some watcher => return watcher
  | none =>
      match service.settings.target with
      | .error rejection => throw (.rejected rejection)
      | .ok target =>
          let watcher : Watcher :=
            { target, environment := service.environment, buildsClient := true }
          set { service with watcher := some watcher }
          return watcher

/-- The sink that the settings name. -/
def sinkOf (settings : Settings) : Sink :=
  if settings.outputPath = "" then .output else .file (Path.ofText settings.outputPath)

/-- Prepare the watcher and the sink. -/
def prepare : Serving Unit := do
  note .preparing
  let watcher <- ensureWatcher
  match <- attempt watcher Watcher.prepare with
  | .error failure => throw failure
  | .ok () =>
      modify fun service => { service with sink := service.sink.orElse fun _ => sinkOf service.settings }
      let settings := (<- get).settings
      note (.prepared settings.bucket settings.key settings.outputPath settings.failureLimit)

/-- Count a failure, and give up when the limit is reached. -/
def recordFailure (notice : Report -> Nat -> Notice) (report : Report) : Serving Unit := do
  modify fun service => { service with failures := service.failures + 1 }
  let service <- get
  note (notice report service.failures)
  let limit := service.settings.failureLimit
  if 0 < limit ∧ limit ≤ service.failures then
    note (.limitReached limit)
    modify fun service => { service with failed := true, around.running := false }

/-- Forget the failures so far. -/
def clearFailures : Serving Unit := modify fun service => { service with failures := 0 }

/-- What the service does about a poll that failed.  The answer is whether it goes on. -/
def handleFailure (failure : Failure) : Serving Bool := do
  let report := failure.report
  match report.watchKind? with
  | some .cancelled =>
      note .pollingCancelled
      return false
  | some .probe | some .retrieval | some .decode =>
      recordFailure .pollFailed report
      return true
  | _ => throw failure

/-- The token of the version that the watcher saw last. -/
def lastToken (service : Service) : String :=
  (service.watcher.map fun watcher => watcher.progress.token).getD ""

/-- Deliver a new version. -/
def publish (sink : Sink) (content : Content) : Serving Unit := do
  match <- deliver sink content with
  | .error fault =>
      if !fault.spoilsStream then throw (.foreign fault)
      recordFailure .writingFailed (.ofFault fault)
  | .ok size =>
      clearFailures
      note (.written size (<- get).lastToken)

/-- Poll once.  The answer is whether the service goes on. -/
def pollOnce (sink : Sink) : Serving Bool := do
  match (<- get).watcher with
  | none => throw .serviceNotReady
  | some watcher =>
      match <- attempt watcher Watcher.poll with
      | .error failure => handleFailure failure
      | .ok none =>
          clearFailures
          return true
      | .ok (some content) =>
          publish sink content
          return true

/-- Poll for as long as the service is to go on, but no more than the given number of times. -/
def pollRounds (sink : Sink) : (rounds : Nat) -> Serving Unit
  | 0 => return ()
  | rounds + 1 => do
      if !(<- get).around.running then return ()
      let goesOn <- pollOnce sink
      if goesOn then pollRounds sink rounds

/-- Run for at most the given number of polls. -/
def runFor (rounds : Nat) : Serving Unit := do
  let service <- get
  match service.watcher, service.sink with
  | some _, some sink =>
      setRunning true
      note .loopStarted
      pollRounds sink rounds
      setRunning false
      note (.loopStopped (((<- get).watcher.map Watcher.tally).getD {}))
  | _, _ => throw .serviceNotReady

/-- The number of polls after which a service that is stopped when its store falls silent has come to
its end: one for every reply, one that finds the store silent, and one that is cancelled. -/
def roundsBound (service : Service) : Nat := service.around.remote.heads.length + 2

/-- Run until the service is stopped. -/
def run : Serving Unit := do
  runFor (<- get).roundsBound

/-- Stop the service, and the watcher if there is one. -/
def stop : Serving Unit := do
  let service <- get
  match service.watcher with
  | some watcher => set (service.withScene (Scene.stop { watcher, around := service.around }))
  | none =>
      note .stopping
      setRunning false

end Service
end ObjectWatch
