import ObjectWatch.Store.Remote
import ObjectWatch.Watcher.Journal
import ObjectWatch.Watcher.Pause

/-!
# The watcher and what surrounds it

A watcher holds what it watches and what it remembers.  Around it are the remote side, the clock, the
journal of the run, and the service that may be asked to stop.  Both together are a scene, and everything
that a watcher does is an act on a scene.  An act that fails keeps the scene that it had reached.

A request to stop can arrive in any call to the outside: it stops the service and cancels the pause
of the watcher.  A service whose store has nothing more to say is asked to stop when it waits.
-/

namespace ObjectWatch

open EnvFile (Environment)

/-- A watcher. -/
structure Watcher where
  target : Target
  /-- The variables among which credentials are looked for. -/
  environment : Environment := []
  /-- Whether the watcher builds the client of its store itself. -/
  buildsClient : Bool := false
  /-- The credentials in use, once they are found. -/
  credentials : Option Credentials := none
  /-- Whether credentials were found and no client could be built with them so far. -/
  lacksClient : Bool := false
  /-- The seconds between two polls. -/
  interval : Float := defaultInterval
  pause : Pause := {}
  progress : Progress := {}
  tally : Tally := {}

namespace Watcher

/-- A watcher can poll once it is prepared. -/
def isPrepared (watcher : Watcher) : Bool := watcher.credentials.isSome && !watcher.lacksClient

/-- The credentials that are found for the watcher. -/
def foundCredentials (watcher : Watcher) : Credentials :=
  Credentials.resolve watcher.target.completed watcher.environment

/-- The options of the client that goes with these credentials. -/
def clientOptions (watcher : Watcher) : ClientOptions :=
  .ofTarget watcher.target.completed watcher.foundCredentials

/-- The watcher with the gaps in its target filled in, and with the credentials that go with it.  A
watcher that could not poll before still lacks a client. -/
def configured (watcher : Watcher) : Watcher :=
  { watcher with
    target := watcher.target.completed
    interval := watcher.target.intervalInUse
    credentials := some watcher.foundCredentials
    lacksClient := !watcher.isPrepared }

/-- The watcher has a client now. -/
def connected (watcher : Watcher) : Watcher := { watcher with lacksClient := false }

end Watcher

/-- How a request to stop reaches the service. -/
inductive Stopper where
  /-- There is no service. -/
  | absent
  | direct
  /-- By a signal, which is noted first. -/
  | signal (number : Nat)
deriving DecidableEq, Repr

/-- What surrounds a watcher. -/
structure Surroundings where
  remote : Remote := {}
  clock : Clock := {}
  journal : Journal := []
  stopper : Stopper := .absent
  /-- Whether the pause is going to be cancelled during the next wait. -/
  nextWaitCancelled : Bool := false
  /-- Whether the service is to go on polling. -/
  running : Bool := false

namespace Surroundings

/-- Note something. -/
def note (notice : Notice) (around : Surroundings) : Surroundings :=
  { around with journal := around.journal ++ [.notice notice] }

/-- Record a call. -/
def called (call : Call) (around : Surroundings) : Surroundings :=
  { around with journal := around.journal ++ [.call call] }

/-- Record what happened meanwhile. -/
def recorded (events : Journal) (around : Surroundings) : Surroundings :=
  { around with journal := around.journal ++ events }

end Surroundings

/-- A watcher and what surrounds it. -/
structure Scene where
  watcher : Watcher
  around : Surroundings := {}

namespace Scene

/-- Note something. -/
def note (notice : Notice) (scene : Scene) : Scene :=
  { scene with around := scene.around.note notice }

/-- Record a call. -/
def called (call : Call) (scene : Scene) : Scene :=
  { scene with around := scene.around.called call }

/-- Record what happened meanwhile. -/
def recorded (events : Journal) (scene : Scene) : Scene :=
  { scene with around := scene.around.recorded events }

/-- Cancel the pause. -/
def cancelPause (scene : Scene) : Scene :=
  { scene with watcher.pause := scene.watcher.pause.cancel }

/-- Reset the pause. -/
def resetPause (scene : Scene) : Scene :=
  { scene with watcher.pause := scene.watcher.pause.reset }

/-- Cancel the watcher: its pause ends now, and so does every later one. -/
def cancel (scene : Scene) : Scene :=
  (scene.note (.cancelling scene.watcher.target.key)).cancelPause

/-- Stop the service and with it the watcher. -/
def stop (scene : Scene) : Scene :=
  let scene := scene.note .stopping
  { scene with around.running := false }.cancel

/-- Pass a request to stop on to the service, if there is one. -/
def requestStop (scene : Scene) : Scene :=
  match scene.around.stopper with
  | .absent => scene
  | .direct => scene.stop
  | .signal number => (scene.note (.signalReceived number)).stop

/-- What happens in a scene while a reply is awaited. -/
def interrupt (interruption : Interruption) (scene : Scene) : Scene :=
  let scene := if interruption.cancels then scene.cancelPause else scene
  if interruption.stops then scene.requestStop else scene

/-- Whether the next wait of the watcher cannot begin. -/
def refusesWait (scene : Scene) : Bool :=
  scene.watcher.pause.isRefused scene.around.clock scene.watcher.interval

/-- What happens in a scene during a wait. -/
def interruptWait (scene : Scene) : Scene :=
  let scene := if scene.around.nextWaitCancelled then
      { scene.cancelPause with around.nextWaitCancelled := false }
    else scene
  if scene.around.remote.isSilent then scene.requestStop else scene

end Scene

/-- What a watcher does in a scene. -/
abbrev Act := EStateM Failure Scene

end ObjectWatch
