import ObjectWatch.Watcher.Basic
import ObjectWatch.Watcher.Content

/-!
# Preparing and polling

A prepared watcher polls: it waits for its interval, except before the first poll, asks the store for
the token of the current version, and asks for the content only when the token is not the one that
it saw last.  The new token is remembered before the content is asked for, so a version whose
content could not be had is not asked for again.

Whether the watcher was cancelled is looked at after the wait and again between the two requests.
A cancelled watcher sends nothing.

Content that is gzip by its key alone is unpacked.  When that fails in a way that shows that it is no
gzip file after all, content is handed on as it is from then on.
-/

namespace ObjectWatch
namespace Watcher

/-- Change the watcher of the scene. -/
def update (change : Watcher -> Watcher) : Act Unit :=
  modify fun scene => { scene with watcher := change scene.watcher }

/-- Count something. -/
def count (change : Tally -> Tally) : Act Unit :=
  update fun watcher => { watcher with tally := change watcher.tally }

/-- Remember something. -/
def remember (change : Progress -> Progress) : Act Unit :=
  update fun watcher => { watcher with progress := change watcher.progress }

/-- Note something. -/
def note (notice : Notice) : Act Unit := modify (Scene.note notice)

/-- Build the client of the store.  The attempt is recorded, and it may fail. -/
def buildClient (options : ClientOptions) (source : String) : Act Unit := do
  modify (Scene.recorded (.ofClient options source))
  let scene <- get
  let (failure, remote) := scene.around.remote.client
  set { scene with around.remote := remote }
  if let some fault := failure then throw (.foreign fault)

/-- Check the target, fill in what it leaves open, and find the credentials and the client of the
store.  Nothing is sent.  A watcher whose client cannot be built keeps the client that it had, if it had
one. -/
def prepare : Act Unit := do
  let watcher := (<- get).watcher
  if watcher.target.bucket = "" then throw .bucketMissing
  if watcher.target.key = "" then throw .keyMissing
  update Watcher.configured
  if watcher.buildsClient then
    buildClient watcher.clientOptions watcher.foundCredentials.source
  update Watcher.connected
  let target := watcher.target.completed
  note (.watcherPrepared target.bucket target.key target.regionInUse watcher.target.intervalInUse
    watcher.foundCredentials.source target.embeddedCertificates)

/-- Wait for the interval.  The answer is whether the wait was cancelled.  Nothing happens during a wait
that the clock refuses. -/
def wait : Act Bool := do
  let interval := (<- get).watcher.interval
  modify (Scene.called (.wait interval))
  if (<- get).refusesWait then throw (.foreign Clock.overflow)
  modify Scene.interruptWait
  return (<- get).watcher.pause.wait interval

/-- Fail if the watcher was cancelled. -/
def checkCancelled : Act Unit := do
  if (<- get).watcher.pause.isCancelled then throw (.cancelled false)

/-- Wait before every poll but the first. -/
def pace : Act Unit := do
  if (<- get).watcher.progress.hasPolled then
    let cancelled <- wait
    if cancelled then throw (.cancelled true)
  remember Progress.markPolled
  checkCancelled

/-- Await the reply to a request for metadata. -/
def awaitHead : Act (Except Fault Metadata) := do
  let scene <- get
  let (reply, remote) := scene.around.remote.head
  set { scene with around.remote := remote }
  modify (Scene.interrupt reply.interruption)
  return reply.outcome

/-- Await the reply to a request for content. -/
def awaitGet : Act (Except Fault Delivery) := do
  let scene <- get
  let (reply, remote) := scene.around.remote.get
  set { scene with around.remote := remote }
  modify (Scene.interrupt reply.interruption)
  return reply.outcome

/-- Ask for the metadata of the object. -/
def probe (bucket key : String) : Act Metadata := do
  modify (Scene.called (.head bucket key))
  match <- awaitHead with
  | .ok metadata =>
      count (Tally.recordProbe true)
      return metadata
  | .error cause =>
      if !cause.isOrdinary then throw (.foreign cause)
      count (Tally.recordProbe false)
      note (.probeFailed bucket key cause)
      throw (.probe bucket key cause)

/-- Ask for the content of the version with a given token. -/
def retrieve (bucket key token : String) : Act (Body × Option String) := do
  modify (Scene.called (.get bucket key))
  let outcome <- awaitGet
  match outcome.bind fun delivery => delivery.content.map (·, delivery.encoding) with
  | .ok content =>
      count (Tally.recordRetrieval token true)
      return content
  | .error cause =>
      if !cause.isOrdinary then throw (.foreign cause)
      count (Tally.recordRetrieval token false)
      note (.retrievalFailed bucket key cause)
      throw (.retrieval bucket key token cause)

/-- Give decoding up. -/
def disableDecoding : Act Unit := do
  if let some notice := Notice.ofDisabling? (<- get).watcher.progress then note notice
  remember Progress.disableDecoding

/-- Unpack a body. -/
def unpack (key token : String) (body : Body) : Act Content := do
  match Gzip.openBody body with
  | .ok stream =>
      remember Progress.markDecoded
      count (Tally.recordDecode true)
      return .unpacked stream
  | .error (cause, body) =>
      if !cause.spoilsOpening then throw (.opening cause body)
      disableDecoding
      count (Tally.recordDecode false)
      note (.decodeFailed key cause)
      throw (.decode key token cause body)

/-- Remember a new token. -/
def commit (key token : String) : Act Unit := do
  let previous := (<- get).watcher.progress.token
  remember (·.commit token)
  note (.changed key token previous)

/-- Look at the object once.  The answer is its content if it has changed. -/
def poll : Act (Option Content) := do
  let watcher := (<- get).watcher
  if !watcher.isPrepared then throw .watcherNotReady
  let bucket := watcher.target.bucket
  let key := watcher.target.key
  pace
  let token := (<- probe bucket key).token
  if (<- get).watcher.progress.knows token then
    count Tally.recordUnchanged
    note (.unchanged key token)
    return none
  commit key token
  checkCancelled
  let (body, encoding) <- retrieve bucket key token
  if (<- get).watcher.progress.mayDecode && expectsCompressed key &&
      !isTransportCompressed encoding then
    return some (<- unpack key token body)
  return some (.raw body)

end Watcher
end ObjectWatch
