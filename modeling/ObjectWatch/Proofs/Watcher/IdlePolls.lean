import ObjectWatch.Proofs.Watcher.Outlook
import ObjectWatch.Proofs.Watcher.Requests
import ObjectWatch.Proofs.Watcher.Writer

/-!
# Polls that bring nothing

A poll whose probe fails, or brings the token that the watcher remembers, is idle: it produces neither content
nor a failure of anything but its probe.  Here two runs of a watcher are compared: one in which idle polls
occur, and one from which they were taken out together with the replies to their probes.

What the watcher produces is decided by a part of the scene, its `bearing`, and by what the probe is told.
An idle poll leaves that part as it is, and any other poll goes the same way in both runs.  So the runs are
in the same position whenever the idle polls of the first are done, although the first has polled more often,
has waited more often, and has counted more probes.

All this is about runs that use their replies up.  A run whose interval is too long for the clock does not:
it gets no further than its first poll, and the poll that is taken out may be that one.
-/

namespace ObjectWatch

open Watcher

/-! ## What bears on what a watcher produces -/

/-- A watcher without what its probes alone leave: that it has polled, and how its probes ended. -/
def Watcher.withoutProbes (watcher : Watcher) : Watcher :=
  { watcher with
    progress := { watcher.progress with hasPolled := false }
    tally := { watcher.tally with probes := 0, probeFailures := 0, unchanged := 0 } }

/-- The part of a scene that bears on the content which is still to come. -/
structure Bearing where
  watcher : Watcher
  gets : List (Reply Delivery)
  clock : Clock
  stopper : Stopper
  nextWaitCancelled : Bool
  /-- The requests for content so far. -/
  retrievals : List Call

/-- Something was called. -/
def Bearing.called (call : Call) (bearing : Bearing) : Bearing :=
  { bearing with retrievals := bearing.retrievals ++ [call].filter Call.isGet }

/-- Something was remembered. -/
def Bearing.remembered (change : Progress -> Progress) (bearing : Bearing) : Bearing :=
  { bearing with watcher.progress := change bearing.watcher.progress }

/-- Something was counted. -/
def Bearing.counted (change : Tally -> Tally) (bearing : Bearing) : Bearing :=
  { bearing with watcher.tally := change bearing.watcher.tally }

namespace Scene

/-- The requests for content so far. -/
def retrievals (scene : Scene) : List Call := scene.calls.filter Call.isGet

/-- The part of the scene that bears on the content which is still to come. -/
def bearing (scene : Scene) : Bearing where
  watcher := scene.watcher.withoutProbes
  gets := scene.around.remote.gets
  clock := scene.around.clock
  stopper := scene.around.stopper
  nextWaitCancelled := scene.around.nextWaitCancelled
  retrievals := scene.retrievals

variable {scene other : Scene}

theorem target_of_bearing (same : scene.bearing = other.bearing) :
    scene.watcher.target = other.watcher.target :=
  congrArg (fun bearing => bearing.watcher.target) same

theorem token_of_bearing (same : scene.bearing = other.bearing) :
    scene.watcher.progress.token = other.watcher.progress.token :=
  congrArg (fun bearing => bearing.watcher.progress.token) same

theorem decodeState_of_bearing (same : scene.bearing = other.bearing) :
    scene.watcher.progress.decodeState = other.watcher.progress.decodeState :=
  congrArg (fun bearing => bearing.watcher.progress.decodeState) same

theorem pause_of_bearing (same : scene.bearing = other.bearing) :
    scene.watcher.pause = other.watcher.pause :=
  congrArg (fun bearing => bearing.watcher.pause) same

theorem isReady_of_bearing (same : scene.bearing = other.bearing) (ready : scene.IsReady) :
    other.IsReady where
  prepared := (congrArg (fun bearing => bearing.watcher.isPrepared) same).symm.trans ready.prepared
  free := by
    rw [← pause_of_bearing same]
    exact ready.free
  unannounced := (congrArg Bearing.nextWaitCancelled same).symm.trans ready.unannounced

/-! ## Interruptions -/

/-- An interruption touches the pause and nothing else that bears on content. -/
theorem interrupt_bearing (interruption : Interruption) (scene : Scene) :
    (scene.interrupt interruption).bearing =
      { scene.bearing with
        watcher :=
          { scene.bearing.watcher with
            pause := if interruption.cancelsIn scene.bearing.stopper then
                scene.bearing.watcher.pause.cancel
              else scene.bearing.watcher.pause } } := by
  unfold bearing retrievals
  rw [interrupt_watcher, interrupt_remote, interrupt_clock, interrupt_stopper, interrupt_calls,
    interrupt_nextWaitCancelled]
  rfl

theorem note_bearing (notice : Notice) (scene : Scene) :
    (scene.note notice).bearing = scene.bearing := by
  unfold bearing retrievals
  rw [note_calls]
  rfl

theorem called_bearing (call : Call) (scene : Scene) :
    (scene.called call).bearing = scene.bearing.called call := by
  unfold bearing retrievals
  rw [called_calls, List.filter_append]
  rfl

/-- How a probe ended is not counted among what bears on content. -/
theorem recordProbe_bearing (success : Bool) (scene : Scene) :
    (scene.counted (Tally.recordProbe success)).bearing = scene.bearing := rfl

theorem recordUnchanged_bearing (scene : Scene) :
    (scene.counted Tally.recordUnchanged).bearing = scene.bearing := rfl

end Scene

/-! ## The stages of a poll -/

open Scene

theorem note_decided (notice : Notice) : DecidedBy bearing (Watcher.note notice) :=
  .of_modify id (note_bearing notice)

/-- Whether the watcher has polled has no part in what is remembered. -/
theorem remember_decided {change : Progress -> Progress}
    (apart : forall progress : Progress,
      { change progress with hasPolled := false } = change { progress with hasPolled := false }) :
    DecidedBy bearing (remember change) := by
  apply DecidedBy.of_modify (Bearing.remembered change)
  intro scene
  exact congrArg (fun progress => scene.bearing.remembered fun _ => progress)
    (apart scene.watcher.progress)

/-- The counters of probes have no part in what is counted. -/
theorem count_decided {change : Tally -> Tally}
    (apart : forall tally : Tally,
      { change tally with probes := 0, probeFailures := 0, unchanged := 0 } =
        change { tally with probes := 0, probeFailures := 0, unchanged := 0 }) :
    DecidedBy bearing (count change) := by
  apply DecidedBy.of_modify (Bearing.counted change)
  intro scene
  exact congrArg (fun tally => scene.bearing.counted fun _ => tally) (apart scene.watcher.tally)

/-- What a request for content brings is decided by the replies that are left. -/
theorem awaitGet_decided : DecidedBy bearing awaitGet := by
  intro scene other same
  have gets : scene.around.remote.gets = other.around.remote.gets := congrArg Bearing.gets same
  have reply : scene.getReply = other.getReply := congrArg (fun gets => (Remote.next gets).1) gets
  have answered : forall scene : Scene,
      { scene with around.remote := scene.around.remote.get.2 }.bearing =
        { scene.bearing with gets := (Remote.next scene.bearing.gets).2 } := fun _ => rfl
  rw [awaitGet_apply, awaitGet_apply, reply]
  apply LookSame.ok
  rw [interrupt_bearing, interrupt_bearing, answered, answered, same]

/-- What bears on content decides everything that comes after a probe. -/
theorem bearing_outlook : Outlook bearing where
  note := note_decided
  askContent bucket key := .of_modify (Bearing.called (.get bucket key)) (called_bearing _)
  awaitContent := awaitGet_decided
  rememberToken _ := remember_decided fun _ => rfl
  rememberDecoded := by
    apply remember_decided
    rintro ⟨token, hasPolled, decodeState⟩
    cases decodeState <;> rfl
  rememberDisabled := remember_decided fun _ => rfl
  countProbe success := .of_modify id (recordProbe_bearing success)
  countUnchanged := .of_modify id recordUnchanged_bearing
  countRetrieval token success := by
    apply count_decided
    intro tally
    cases success <;> rfl
  countDecode success := by
    apply count_decided
    intro tally
    cases success <;> rfl
  pause := pause_of_bearing
  token := token_of_bearing
  decodeState := decodeState_of_bearing

/-! ## A poll that is told the same -/

theorem probe_looksSame {scene other : Scene} (same : scene.bearing = other.bearing)
    (reply : scene.headReply = other.headReply) (bucket key : String) :
    LookSame bearing (probe bucket key scene) (probe bucket key other) := by
  have told : (scene.called (.head bucket key)).headReply = (other.called (.head bucket key)).headReply :=
    reply
  have answered : forall scene : Scene,
      { scene with around.remote := scene.around.remote.head.2 }.bearing = scene.bearing := fun _ => rfl
  apply bearing_outlook.probe_looksSame
  rw [awaitHead_apply, awaitHead_apply, told]
  apply LookSame.ok
  rw [interrupt_bearing, interrupt_bearing, answered, answered, called_bearing, called_bearing, same]

namespace Scene

variable {scene : Scene}

/-- A store with a reply to a probe left is not silent. -/
theorem speaking_of_heads {reply : Reply Metadata} {replies : List (Reply Metadata)}
    (heads : scene.around.remote.heads = reply :: replies) : scene.around.remote.isSilent = false := by
  unfold Remote.isSilent
  rw [heads]
  rfl

/-- A watcher that nothing disturbs gets to its probe, if it can wait. -/
theorem pace_of_ready (ready : scene.IsReady) (paced : scene.isStranded = false)
    (speaking : scene.around.remote.isSilent = false) :
    pace scene = .ok () scene.begun := by
  have free := (ready.begun speaking).free
  rw [begun_watcher] at free
  cases polled : scene.watcher.progress.hasPolled with
  | true =>
      rw [polled] at free
      rw [pace_of_waiting polled paced]
      exact if_neg (ne_true_of_eq_false free)
  | false =>
      rw [pace_of_first polled]
      exact if_neg (ne_true_of_eq_false ready.free)

/-- The wait before a probe has no part in what bears on content. -/
theorem begun_bearing (ready : scene.IsReady) (speaking : scene.around.remote.isSilent = false) :
    scene.begun.bearing = scene.bearing := by
  have undisturbed : scene.waited = scene.called (.wait scene.watcher.interval) :=
    interruptWait_of_undisturbed ready.unannounced speaking
  unfold begun
  cases scene.watcher.progress.hasPolled with
  | true =>
      rw [if_pos rfl, undisturbed]
      exact (called_bearing (.wait scene.watcher.interval) scene).trans
        (congrArg (fun retrievals => { scene.bearing with retrievals }) (List.append_nil _))
  | false => rfl

end Scene

/-- Two watchers in the same position that are told the same by their probes do the same. -/
theorem poll_looksSame {scene other : Scene} (same : scene.bearing = other.bearing)
    (reply : scene.headReply = other.headReply) (ready : scene.IsReady)
    (paced : scene.isStranded = false) (otherPaced : other.isStranded = false)
    (speaking : scene.around.remote.isSilent = false)
    (otherSpeaking : other.around.remote.isSilent = false) :
    LookSame bearing (poll scene) (poll other) := by
  have target := target_of_bearing same
  have otherReady := isReady_of_bearing same ready
  have begun : scene.begun.bearing = other.begun.bearing := by
    rw [begun_bearing ready speaking, begun_bearing otherReady otherSpeaking, same]
  have told : scene.begun.headReply = other.begun.headReply := by
    rw [begun_headReply, begun_headReply, reply]
  apply bearing_outlook.poll_looksSame same
  · rw [ready.prepared, otherReady.prepared]
  · exact ⟨congrArg Target.bucket target, congrArg Target.key target⟩
  · intro bucket key
    rw [bind_of_ok (pace_of_ready ready paced speaking),
      bind_of_ok (pace_of_ready otherReady otherPaced otherSpeaking)]
    exact probe_looksSame begun told bucket key

/-! ## A poll that brings nothing -/

/-- A reply to a probe tells nothing: the probe failed, or it brought the given token. -/
def Reply.isIdle (token : String) (reply : Reply Metadata) : Bool :=
  match reply.outcome with
  | .ok metadata => metadata.token == token
  | .error cause => cause.isOrdinary

/-- What a poll produces: content, or a failure that is not one of its probe. -/
def PollEnd.product? : PollEnd -> Option (Except Failure Content)
  | .ok content _ => content.map .ok
  | .error (.probe _ _ _) _ => none
  | .error failure _ => some (.error failure)

theorem LookSame.product?_eq {result other : PollEnd} (looks : LookSame bearing result other) :
    result.product? = other.product? := by
  cases looks with
  | ok content same => rfl
  | error failure same => cases failure <;> rfl

namespace Scene

variable {scene : Scene}

/-- A poll that was not cancelled leaves the watcher as ready as it was. -/
theorem isReady_of_poll (ready : scene.IsReady) (paced : scene.isStranded = false)
    (speaking : scene.around.remote.isSilent = false)
    (free : (stateOf (poll scene)).watcher.pause.isCancelled = false) :
    (stateOf (poll scene)).IsReady where
  prepared := run_isPrepared ready.prepared [.poll]
  free := free
  unannounced := by
    have course := probing_of_ready ready paced speaking
    exact (congrArg Prod.snd course.standing_eq).trans (ready.begun speaking).unannounced

/-- A poll takes the first of the replies to probes, and remembers the token that it brings. -/
theorem poll_takes (ready : scene.IsReady) (paced : scene.isStranded = false)
    {reply : Reply Metadata} {replies : List (Reply Metadata)}
    (heads : scene.around.remote.heads = reply :: replies) :
    (stateOf (poll scene)).around.remote.heads = replies ∧
      (stateOf (poll scene)).watcher.progress.token =
        tokenAfter scene.watcher.progress.token [reply] := by
  have speaking := speaking_of_heads heads
  have course := probing_of_ready ready paced speaking
  have token := course.token_eq
  rcases course.given with ⟨gets, given⟩
  have taken := given.heads
  rw [begun_remote, heads] at taken
  refine ⟨(List.cons.inj taken).2.symm, token.trans ?_⟩
  have after := tokenAfter_take_one scene.watcher.progress.token scene.around.remote.heads
  have first : scene.begun.headReply = (Remote.next scene.around.remote.heads).1 :=
    scene.begun_headReply
  rw [heads] at after first
  rw [first, begun_token]
  exact after.symm

/-- A probe during which the watcher is not cancelled touches nothing that bears on content. -/
theorem probed_bearing (free : scene.probed.watcher.pause.isCancelled = false) :
    scene.probed.bearing = scene.bearing := by
  have uncancelled : ¬ scene.headReply.interruption.cancelsIn scene.around.stopper = true := by
    intro cancels
    rw [probed_watcher, if_pos cancels] at free
    cases free
  have asked :
      { scene.called (.head scene.watcher.target.bucket scene.watcher.target.key) with
        around.remote := scene.around.remote.head.2 }.bearing = scene.bearing :=
    (called_bearing (.head scene.watcher.target.bucket scene.watcher.target.key) scene).trans
      (congrArg (fun retrievals => { scene.bearing with retrievals }) (List.append_nil _))
  unfold probed
  dsimp only
  rw [interrupt_bearing, asked]
  exact congrArg (fun pause => { scene.bearing with watcher := { scene.bearing.watcher with pause } })
    (if_neg uncancelled)

/-- A poll that is told nothing produces nothing, and nothing changes that bears on content. -/
theorem idle_poll (ready : scene.IsReady) (paced : scene.isStranded = false)
    {reply : Reply Metadata} {replies : List (Reply Metadata)}
    (heads : scene.around.remote.heads = reply :: replies)
    (idle : reply.isIdle scene.watcher.progress.token = true)
    (free : (stateOf (poll scene)).watcher.pause.isCancelled = false) :
    PollEnd.product? (poll scene) = none ∧ (stateOf (poll scene)).bearing = scene.bearing := by
  have speaking := speaking_of_heads heads
  have told : scene.begun.headReply = reply := by
    rw [begun_headReply, headReply, Remote.head, heads]
    rfl
  have begun := begun_bearing ready speaking
  have course := probing_of_ready ready paced speaking
  unfold Reply.isIdle at idle
  generalize poll scene = result at course free
  cases course with
  | aborted cause outcome aborts =>
      rw [told] at outcome
      rw [outcome] at idle
      cases aborts.symm.trans idle
  | failed cause outcome ordinary =>
      refine ⟨rfl, ?_⟩
      rw [stateOf, note_bearing, recordProbe_bearing, probed_bearing free, begun]
  | unchanged metadata outcome known =>
      refine ⟨rfl, ?_⟩
      rw [stateOf, note_bearing, recordUnchanged_bearing, recordProbe_bearing, probed_bearing free, begun]
  | changed metadata result outcome new course =>
      rw [told] at outcome
      rw [outcome] at idle
      rw [begun_token] at new
      exact absurd (beq_iff_eq.mp idle) new

end Scene

/-! ## Runs -/

/-- The replies to probes that are left when the idle ones are taken out.  A reply is compared with the
last one before it that brought a token. -/
def withoutIdle : String -> List (Reply Metadata) -> List (Reply Metadata)
  | _, [] => []
  | token, reply :: replies =>
      (if reply.isIdle token then [] else [reply]) ++ withoutIdle (tokenAfter token [reply]) replies

namespace Scene

/-- The scene after a number of polls. -/
def polled (polls : Nat) (scene : Scene) : Scene := scene.run (List.replicate polls .poll)

/-- What a number of polls produce. -/
def products : (polls : Nat) -> Scene -> List (Except Failure Content)
  | 0, _ => []
  | polls + 1, scene =>
      (PollEnd.product? (poll scene)).toList ++ products polls (stateOf (poll scene))

/-- A watcher that was not cancelled by the end of a run was not cancelled when the run began. -/
theorem free_of_polled {scene : Scene} (prepared : scene.watcher.isPrepared = true) (polls : Nat)
    (free : (scene.polled polls).watcher.pause.isCancelled = false) :
    scene.watcher.pause.isCancelled = false := by
  apply Bool.eq_false_iff.mpr
  intro cancelled
  have unreset : Move.reset ∉ List.replicate polls Move.poll := by
    intro member
    cases (List.mem_replicate.mp member).2
  have withheld := withheld_run prepared cancelled _ unreset
  cases free.symm.trans withheld.isCancelled

/-- A watcher that cannot wait stays where it is, however often it polls. -/
theorem polled_of_stranded {scene : Scene} (prepared : scene.watcher.isPrepared = true)
    (stranded : scene.isStranded = true) (polls : Nat) :
    (scene.polled polls).watcher = scene.watcher ∧
      (scene.polled polls).around.remote = scene.around.remote ∧
      (scene.polled polls).isStranded = true := by
  induction polls generalizing scene with
  | zero => exact ⟨rfl, rfl, stranded⟩
  | succ polls inductionHypothesis =>
      have moved : scene.polled (polls + 1) = scene.waitCalled.polled polls := by
        show (stateOf (poll scene)).polled polls = _
        rw [poll_of_stranded prepared stranded]
        rfl
      rw [moved]
      exact @inductionHypothesis scene.waitCalled prepared stranded

/-- A watcher has polled after a poll. -/
theorem hasPolled_of_poll {scene : Scene} (prepared : scene.watcher.isPrepared = true) :
    (stateOf (poll scene)).watcher.progress.hasPolled = true := by
  have polled := (Watcher.parts_of_lasting (poll_lasting prepared)).2.2.2
  rw [begun_watcher] at polled
  exact polled

/-- A run that is not cancelled uses all replies to probes up, or it cannot go on for want of a wait. -/
theorem consumed_or_stranded {replies : List (Reply Metadata)} {scene : Scene}
    (heads : scene.around.remote.heads = replies) (prepared : scene.watcher.isPrepared = true)
    (unannounced : scene.around.nextWaitCancelled = false)
    (free : (scene.polled replies.length).watcher.pause.isCancelled = false) :
    (scene.polled replies.length).around.remote.heads = [] ∨
      (scene.polled replies.length).isStranded = true := by
  induction replies generalizing scene with
  | nil => exact .inl heads
  | cons reply replies inductionHypothesis =>
      cases stranded : scene.isStranded with
      | true => exact .inr (polled_of_stranded prepared stranded _).2.2
      | false =>
          have ready : scene.IsReady := ⟨prepared, free_of_polled prepared _ free, unannounced⟩
          have later :
              ((stateOf (poll scene)).polled replies.length).watcher.pause.isCancelled = false := free
          have freeAfter := free_of_polled (run_isPrepared prepared [.poll]) _ later
          have readyAfter := isReady_of_poll ready stranded (speaking_of_heads heads) freeAfter
          exact inductionHypothesis (poll_takes ready stranded heads).1 readyAfter.prepared
            readyAfter.unannounced later

/-- Of two watchers in the same position, one that can poll without a wait can also wait, if the other
one can that has polled before. -/
theorem paced_of_bearing {scene other : Scene} (same : scene.bearing = other.bearing)
    (polledBefore : other.watcher.progress.hasPolled = true -> scene.watcher.progress.hasPolled = true)
    (paced : scene.isStranded = false) : other.isStranded = false := by
  have interval : scene.watcher.interval = other.watcher.interval :=
    congrArg (fun bearing => bearing.watcher.interval) same
  have clock : scene.around.clock = other.around.clock := congrArg Bearing.clock same
  refine Bool.eq_false_iff.mpr fun stranded => ?_
  rcases isStranded_iff.mp stranded with ⟨polled, free, refuses⟩
  rw [← pause_of_bearing same] at free
  rw [← clock, ← interval] at refuses
  cases paced.symm.trans (isStranded_iff.mpr ⟨polledBefore polled, free, refuses⟩)

/-- Two watchers in the same position, one of which is spared the idle replies, produce the same. -/
theorem products_withoutIdle {replies : List (Reply Metadata)} {scene other : Scene}
    (heads : scene.around.remote.heads = replies)
    (otherHeads : other.around.remote.heads = withoutIdle scene.watcher.progress.token replies)
    (same : scene.bearing = other.bearing) (prepared : scene.watcher.isPrepared = true)
    (polledBefore : other.watcher.progress.hasPolled = true -> scene.watcher.progress.hasPolled = true)
    (unannounced : scene.around.nextWaitCancelled = false)
    (free : (scene.polled replies.length).watcher.pause.isCancelled = false)
    (consumed : (scene.polled replies.length).around.remote.heads = []) :
    scene.products replies.length =
        other.products (withoutIdle scene.watcher.progress.token replies).length ∧
      (scene.polled replies.length).bearing =
        (other.polled (withoutIdle scene.watcher.progress.token replies).length).bearing ∧
      (other.polled (withoutIdle scene.watcher.progress.token replies).length).around.remote.heads =
        [] := by
  induction replies generalizing scene other with
  | nil => exact ⟨rfl, same, otherHeads⟩
  | cons reply replies inductionHypothesis =>
      have ready : scene.IsReady := ⟨prepared, free_of_polled prepared _ free, unannounced⟩
      have paced : scene.isStranded = false := by
        refine Bool.eq_false_iff.mpr fun stranded => ?_
        rw [(polled_of_stranded prepared stranded _).2.1, heads] at consumed
        cases consumed
      have speaking := speaking_of_heads heads
      have later : ((stateOf (poll scene)).polled replies.length).watcher.pause.isCancelled = false :=
        free
      have consumedLater : ((stateOf (poll scene)).polled replies.length).around.remote.heads = [] :=
        consumed
      have freeAfter := free_of_polled (run_isPrepared prepared [.poll]) _ later
      have readyAfter := isReady_of_poll ready paced speaking freeAfter
      have polledAfter := hasPolled_of_poll prepared
      rcases poll_takes ready paced heads with ⟨left, token⟩
      rw [withoutIdle] at otherHeads ⊢
      rw [← token] at otherHeads ⊢
      by_cases idle : reply.isIdle scene.watcher.progress.token = true
      · rw [if_pos idle, List.nil_append] at otherHeads ⊢
        rcases idle_poll ready paced heads idle freeAfter with ⟨nothing, kept⟩
        rcases inductionHypothesis left otherHeads (kept.trans same) readyAfter.prepared
          (fun _ => polledAfter) readyAfter.unannounced later consumedLater with ⟨products, rest⟩
        refine ⟨?_, rest⟩
        rw [← products, List.length_cons, Scene.products, nothing]
        rfl
      · rw [if_neg idle, List.singleton_append] at otherHeads ⊢
        have otherSpeaking := speaking_of_heads otherHeads
        have otherPaced := paced_of_bearing same polledBefore paced
        have told : scene.headReply = other.headReply := by
          rw [headReply, headReply, Remote.head, Remote.head, heads, otherHeads]
          rfl
        have looks := poll_looksSame same told ready paced otherPaced speaking otherSpeaking
        have otherLeft := (poll_takes (isReady_of_bearing same ready) otherPaced otherHeads).1
        rcases inductionHypothesis left otherLeft looks.stateOf_eq readyAfter.prepared
          (fun _ => polledAfter) readyAfter.unannounced later consumedLater with ⟨products, rest⟩
        refine ⟨?_, rest⟩
        rw [List.length_cons, List.length_cons, Scene.products, Scene.products, products,
          looks.product?_eq]

end Scene

namespace Scene

/-- The scene in which the store is spared its idle replies to probes. -/
def withoutIdlePolls (scene : Scene) : Scene :=
  { scene with
    around.remote.heads := withoutIdle scene.watcher.progress.token scene.around.remote.heads }

/-- The scene after one poll for every reply to a probe. -/
def polledOut (scene : Scene) : Scene := scene.polled scene.around.remote.heads.length

/-- What is produced by one poll for every reply to a probe. -/
def output (scene : Scene) : List (Except Failure Content) :=
  scene.products scene.around.remote.heads.length

end Scene

/-- Take a run that is not cancelled.  It uses all its replies to probes up, unless its interval is too long
for the clock.  Take out every poll whose probe fails or brings the token that was brought last.  The run that
is left uses its replies up as well, asks for the same content, produces the same content and the same
failures in the same order, and ends with the same token, the same state of decoding, and the same counters
of retrievals and of decoding. -/
theorem idle_polls_invisible {start : Scene} (prepared : start.watcher.isPrepared = true)
    (unannounced : start.around.nextWaitCancelled = false)
    (uncancelled : start.polledOut.watcher.pause.isCancelled = false) :
    (start.polledOut.around.remote.heads = [] ∨ start.polledOut.isStranded = true) ∧
    (start.polledOut.around.remote.heads = [] ->
      start.withoutIdlePolls.polledOut.around.remote.heads = [] ∧
      start.withoutIdlePolls.polledOut.retrievals = start.polledOut.retrievals ∧
      start.withoutIdlePolls.output = start.output ∧
      start.withoutIdlePolls.polledOut.watcher.progress.token =
        start.polledOut.watcher.progress.token ∧
      start.withoutIdlePolls.polledOut.watcher.progress.decodeState =
        start.polledOut.watcher.progress.decodeState ∧
      start.withoutIdlePolls.polledOut.watcher.tally.retrievals =
        start.polledOut.watcher.tally.retrievals ∧
      start.withoutIdlePolls.polledOut.watcher.tally.retrievalFailures =
        start.polledOut.watcher.tally.retrievalFailures ∧
      start.withoutIdlePolls.polledOut.watcher.tally.decoded =
        start.polledOut.watcher.tally.decoded ∧
      start.withoutIdlePolls.polledOut.watcher.tally.decodeFailures =
        start.polledOut.watcher.tally.decodeFailures) := by
  refine ⟨Scene.consumed_or_stranded rfl prepared unannounced uncancelled, fun consumed => ?_⟩
  have beginning : start.bearing = start.withoutIdlePolls.bearing := rfl
  rcases Scene.products_withoutIdle rfl rfl beginning prepared id unannounced uncancelled consumed with
    ⟨products, bearing, consumedLess⟩
  have same : start.withoutIdlePolls.polledOut.bearing = start.polledOut.bearing := bearing.symm
  refine ⟨consumedLess, congrArg Bearing.retrievals same, products.symm, Scene.token_of_bearing same,
    Scene.decodeState_of_bearing same, ?_, ?_, ?_, ?_⟩
  · exact congrArg (fun bearing => bearing.watcher.tally.retrievals) same
  · exact congrArg (fun bearing => bearing.watcher.tally.retrievalFailures) same
  · exact congrArg (fun bearing => bearing.watcher.tally.decoded) same
  · exact congrArg (fun bearing => bearing.watcher.tally.decodeFailures) same

/-- A store of two versions under a key that promises gzip.  The first one is not gzip, the probes before
and after it are in vain, and the keyboard interrupts a probe of the second one before its content is
missing. -/
def restless : Scene where
  watcher :=
    { target := { bucket := "b", key := "k.gz" }
      credentials := some (Credentials.resolve { bucket := "b", key := "k.gz" } []) }
  around :=
    { remote :=
        { heads :=
            [{ outcome := .error (.system .timeout "slow") }, { outcome := .ok {} },
              { outcome := .ok { tag := some "first" } },
              { outcome := .error (.system .connection "reset") },
              { outcome := .ok { tag := some "first" } }, { outcome := .error (.keyboard "") },
              { outcome := .ok { tag := some "second" } }]
          gets := [{ outcome := .ok { body := some (.ofBytes [1]) } }, { outcome := .ok {} }] } }

/-- Four of seven polls are taken out.  The three that are left produce what all seven do. -/
theorem idle_polls_invisible_restless :
    restless.watcher.isPrepared = true ∧ restless.around.nextWaitCancelled = false ∧
      restless.polledOut.watcher.pause.isCancelled = false ∧
      restless.polledOut.around.remote.heads = [] ∧
      restless.withoutIdlePolls.around.remote.heads.length = 3 ∧
      restless.withoutIdlePolls.output = restless.output ∧ restless.output.length = 3 ∧
      restless.withoutIdlePolls.polledOut.watcher.tally.retrievals = 2 := by
  have uncancelled : restless.polledOut.watcher.pause.isCancelled = false := by decide +kernel
  have retrieved : restless.polledOut.watcher.tally.retrievals = 2 := by decide +kernel
  have consumed : restless.polledOut.around.remote.heads = [] :=
    List.eq_nil_of_length_eq_zero (by decide +kernel)
  rcases (@idle_polls_invisible restless rfl rfl uncancelled).2 consumed with
    ⟨_, _, output, _, _, retrievals, _⟩
  refine ⟨rfl, rfl, uncancelled, consumed, ?_, output, ?_, retrievals.trans retrieved⟩
  · decide +kernel
  · decide +kernel

end ObjectWatch
