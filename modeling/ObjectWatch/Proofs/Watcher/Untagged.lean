import ObjectWatch.Proofs.Watcher.Requests
import ObjectWatch.Proofs.Watcher.Retrieval

/-!
# Objects without a tag

Metadata without a tag has the empty token, and a watcher that has seen nothing yet remembers the empty
token as well.  So an object that never had a tag is never retrieved.  The two meanings of the empty token
come apart once the watcher has seen a tag: an object that loses its tag then counts as changed.  The
empty token is remembered for it, its content is asked for once more, and from then on it is left alone
for as long as it stays without a tag.

All of this goes by the history of the watcher, which decides through one thing only: the token of the
last probe that succeeded.
-/

namespace ObjectWatch

/-- Metadata without a tag has the token that stands for nothing seen so far. -/
theorem Metadata.token_of_untagged {metadata : Metadata} (untagged : metadata.tag = none) :
    metadata.token = "" := by
  unfold Metadata.token
  rw [untagged]
  rfl

namespace Scene

/-- The next poll takes the object for unchanged: it returns no content, asks for none, and the watcher
remembers the token that it remembered before. -/
structure FindsUnchanged (scene : Scene) : Prop where
  contentless : exists after, Watcher.poll scene = .ok none after
  unasked : (stateOf (Watcher.poll scene)).gets = scene.gets
  kept : (stateOf (Watcher.poll scene)).watcher.progress.token = scene.watcher.progress.token

/-! ## One poll whose probe succeeds -/

section Probed

variable {scene : Scene} {metadata : Metadata}

/-- The token that its probe brings is the one that a watcher remembers after a poll. -/
theorem poll_token_of_probed (prepared : scene.watcher.isPrepared = true)
    (free : scene.isHeldBack = false)
    (outcome : scene.headReply.outcome = .ok metadata) :
    (stateOf (Watcher.poll scene)).watcher.progress.token = metadata.token := by
  rw [(probing_of_free prepared free).token_eq, begun_headReply, outcome]

/-- A poll takes the object for unchanged exactly when its probe brings the token that is remembered. -/
theorem findsUnchanged_iff (prepared : scene.watcher.isPrepared = true)
    (free : scene.isHeldBack = false)
    (outcome : scene.headReply.outcome = .ok metadata) :
    scene.FindsUnchanged ↔ metadata.token = scene.watcher.progress.token := by
  have token := poll_token_of_probed prepared free outcome
  constructor
  · intro finds
    rw [← token, finds.kept]
  · intro known
    have course := probing_of_free prepared free
    have unchanging : ¬ scene.BringsChange := by
      rintro ⟨⟨other, same, new⟩, _⟩
      rw [outcome] at same
      cases same
      exact new known
    refine ⟨?_, ?_, token.trans known⟩
    · generalize Watcher.poll scene = result at course
      rw [← scene.begun_headReply] at outcome
      rw [← scene.begun_token] at known
      cases course with
      | aborted cause failed aborts => rw [outcome] at failed; cases failed
      | failed cause failed ordinary => rw [outcome] at failed; cases failed
      | unchanged other same known => exact ⟨_, rfl⟩
      | changed other result same new course =>
          rw [outcome] at same
          cases same
          exact absurd known new
    · have asked := course.gets_eq (begun_free free)
      rw [scene.begun_gets, scene.begun_bringsChange] at asked
      rcases asked with ⟨brings, _⟩ | ⟨_, same⟩
      · exact absurd brings unchanging
      · exact same

end Probed

end Scene

/-! ## Many polls over one token -/

/-- A move asks for content once at most. -/
theorem Move.gets_le (move : Move) (scene : Scene) : (move.apply scene).gets ≤ scene.gets + 1 := by
  cases move with
  | poll =>
      rcases (poll_course scene).requests with ⟨_, _, asked⟩ | ⟨_, _, same⟩ | ⟨_, same⟩
      · exact Nat.le_of_eq asked
      · exact Nat.le_succ_of_le (Nat.le_of_eq same)
      · exact Nat.le_succ_of_le (Nat.le_of_eq same)
  | cancel =>
      have same : scene.cancel.gets = scene.gets :=
        congrArg (List.countP Call.isGet) scene.cancel_calls
      exact Nat.le_succ_of_le (Nat.le_of_eq same)
  | reset => exact Nat.le_succ _

/-- Replies that bring one token and no other leave it remembered. -/
theorem tokenAfter_of_constant {token remembered brought : String} {replies : List (Reply Metadata)}
    (brings : brought ∈ tokensOf replies)
    (constant : forall other, other ∈ tokensOf replies -> other = token) :
    tokenAfter remembered replies = token := by
  unfold tokenAfter
  cases last : (tokensOf replies).getLast? with
  | none =>
      rw [List.getLast?_eq_none_iff] at last
      rw [last] at brings
      cases brings
  | some other => exact constant other (List.mem_of_getLast? last)

namespace Scene

/-- While the store reports one token only, whatever was remembered before, content is asked for once at
most. -/
theorem run_gets_le_of_constant (moves : List Move) (scene : Scene) {token : String}
    {heads : List (Reply Metadata)} {gets : List (Reply Delivery)}
    (given : Given scene (scene.run moves) heads gets)
    (constant : forall other, other ∈ tokensOf heads -> other = token) :
    (scene.run moves).gets ≤ scene.gets + 1 := by
  induction moves generalizing scene heads gets with
  | nil => exact Nat.le_succ _
  | cons move moves inductionHypothesis =>
      rcases move.account scene with ⟨first, firstGets, firstGiven, firstToken, brought⟩
      rcases run_account moves (move.apply scene) with ⟨rest, restGets, restGiven, _⟩
      have parts := (firstGiven.trans restGiven).unique given
      rw [← parts.1, tokensOf_append] at constant
      have constantFirst : forall other, other ∈ tokensOf first -> other = token :=
        fun other member => constant other (List.mem_append_left _ member)
      have constantRest : forall other, other ∈ tokensOf rest -> other = token :=
        fun other member => constant other (List.mem_append_right _ member)
      rw [run_cons]
      -- the first move that asks for content remembers the token, so it is the only one
      by_cases same : (move.apply scene).gets = scene.gets
      · rw [← same]
        exact inductionHypothesis (move.apply scene) restGiven constantRest
      · rcases brought same with ⟨other, member, _⟩
        have remembered : (move.apply scene).watcher.progress.token = token :=
          firstToken.trans (tokenAfter_of_constant member constantFirst)
        have later := run_gets_of_same moves (move.apply scene) restGiven
          (fun other member => (constantRest other member).trans remembered.symm)
        rw [later]
        exact move.gets_le scene

end Scene

/-! ## The law of objects without a tag -/

/-- Whatever a watcher went through since nothing was seen, a poll that probes an object without a tag
takes it for unchanged exactly when the last probe that succeeded brought no tag either, or none did.
After a tag was seen, the missing one counts as a change: the empty token is remembered, and content is
asked for unless the poll is cancelled meanwhile.  For as long as the object stays without a tag, that
happens once. -/
theorem untagged_unchanged_iff {start : Scene} (unseen : start.watcher.progress.token = "")
    (prepared : start.watcher.isPrepared = true) (moves : List Move)
    {heads : List (Reply Metadata)} {gets : List (Reply Delivery)}
    (given : Given start (start.run moves) heads gets)
    (free : (start.run moves).isHeldBack = false) {metadata : Metadata}
    (outcome : (start.run moves).headReply.outcome = .ok metadata) (untagged : metadata.tag = none) :
    ((start.run moves).FindsUnchanged ↔ latestToken heads = "") ∧
      (latestToken heads ≠ "" ->
        (stateOf (Watcher.poll (start.run moves))).watcher.progress.token = "" ∧
        ((stateOf (Watcher.poll (start.run moves))).gets = (start.run moves).gets + 1 ↔
          (start.run moves).headReply.interruption.cancelsIn
            (start.run moves).around.stopper = false)) ∧
      (forall later laterHeads laterGets,
        Given (start.run moves) ((start.run moves).run later) laterHeads laterGets ->
        (forall token, token ∈ tokensOf laterHeads -> token = "") ->
        ((start.run moves).run later).gets ≤ (start.run moves).gets + 1) := by
  have ready : (start.run moves).watcher.isPrepared = true := Scene.run_isPrepared prepared moves
  have token := metadata.token_of_untagged untagged
  have latest : (start.run moves).watcher.progress.token = latestToken heads := by
    rcases start.run_account moves with ⟨replies, _, account, remembered⟩
    rw [remembered, unseen, (account.unique given).1]
    rfl
  refine ⟨?_, fun seen => ⟨?_, ?_⟩, ?_⟩
  · rw [Scene.findsUnchanged_iff ready free outcome, token, latest]
    exact eq_comm
  · rw [Scene.poll_token_of_probed ready free outcome, token]
  · rw [(poll_course (start.run moves)).asks_iff]
    refine ⟨fun asks => asks.2.2.2, fun going => ⟨ready, free, ⟨metadata, outcome, ?_⟩, going⟩⟩
    rw [token, latest]
    exact seen.symm
  · intro later laterHeads laterGets laterGiven bare
    exact Scene.run_gets_le_of_constant later _ laterGiven bare

/-- A store whose object has a tag at first and none from then on.  Its content stays the same. -/
def losingTag : Scene where
  watcher :=
    { target := { bucket := "b", key := "k" }
      credentials := some (Credentials.resolve { bucket := "b", key := "k" } []) }
  around :=
    { remote :=
        { heads := [{ outcome := .ok { tag := some "first" } }, { outcome := .ok {} }, { outcome := .ok {} }]
          gets := [{ outcome := .ok { body := some (.ofBytes [1]) } },
            { outcome := .ok { body := some (.ofBytes [1]) } }] } }

/-- The second probe brings no tag, and the same content is retrieved again; the third one finds the
object unchanged. -/
theorem untagged_unchanged_iff_losing_tag :
    losingTag.watcher.progress.token = "" ∧ losingTag.watcher.isPrepared = true ∧
      Given losingTag (losingTag.run [.poll]) [{ outcome := .ok { tag := some "first" } }]
        [{ outcome := .ok { body := some (.ofBytes [1]) } }] ∧
      (losingTag.run [.poll]).isHeldBack = false ∧
      (losingTag.run [.poll]).headReply.outcome = .ok {} ∧
      ¬ (losingTag.run [.poll]).FindsUnchanged ∧
      (stateOf (Watcher.poll (losingTag.run [.poll]))).gets = (losingTag.run [.poll]).gets + 1 ∧
      ((losingTag.run [.poll]).run [.poll, .poll]).gets ≤ (losingTag.run [.poll]).gets + 1 := by
  have given : Given losingTag (losingTag.run [.poll]) [{ outcome := .ok { tag := some "first" } }]
      [{ outcome := .ok { body := some (.ofBytes [1]) } }] := ⟨rfl, rfl⟩
  have law := @untagged_unchanged_iff losingTag rfl rfl [.poll] _ _ given rfl _ rfl rfl
  have seen : latestToken [{ outcome := .ok { tag := some "first" } }] = "first" := rfl
  have tagged : latestToken [{ outcome := .ok { tag := some "first" } }] ≠ "" := by
    rw [seen]
    decide
  refine ⟨rfl, rfl, given, rfl, rfl, fun finds => tagged (law.1.mp finds), ?_, ?_⟩
  · exact (law.2.1 tagged).2.mpr rfl
  · refine law.2.2 [.poll, .poll] [{ outcome := .ok {} }, { outcome := .ok {} }]
      [{ outcome := .ok { body := some (.ofBytes [1]) } }] ⟨rfl, rfl⟩ ?_
    decide

end ObjectWatch
