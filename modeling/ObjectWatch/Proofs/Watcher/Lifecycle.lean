import ObjectWatch.Proofs.Watcher.Retrieval

/-!
# The life of decoding

Decoding begins untried, becomes active with the first content that was unpacked, and is disabled by
the first content that could not be; nothing leads back.  The state, the two counters and the error
that the caller sees are set in different places, and they agree after every poll: also after one that
was cancelled, and after one whose body could not even be closed.

Whether a poll reads from the body that it retrieves is asked by serving a body that fails as soon as
it is read.  The watcher reads from it exactly when the key names a gzip file, the encoding does not
mention gzip, and decoding is not disabled; otherwise the body comes back as it was served.
-/

namespace ObjectWatch

/-! ## States and counters -/

/-- The changes of the state of decoding. -/
inductive DecodeState.Leads : DecodeState -> DecodeState -> Prop where
  | activated : Leads .untried .active
  | givenUp {state : DecodeState} (trusting : state ≠ .disabled) : Leads state .disabled

/-- The state of decoding is the one that the counters tell. -/
structure Scene.Agrees (scene : Scene) : Prop where
  untried : scene.watcher.progress.decodeState = .untried ↔
    scene.watcher.tally.decoded = 0 ∧ scene.watcher.tally.decodeFailures = 0
  active : scene.watcher.progress.decodeState = .active ↔
    0 < scene.watcher.tally.decoded ∧ scene.watcher.tally.decodeFailures = 0
  disabled : scene.watcher.progress.decodeState = .disabled ↔
    scene.watcher.tally.decodeFailures = 1

/-- A body raises no error of the watcher's own family, neither when it is read nor when it is
closed. -/
structure Body.RaisesForeign (body : Body) : Prop where
  reading : forall fault, body.failure = some fault -> fault.watchKind? = none
  closing : forall fault, body.closeFault = some fault -> fault.watchKind? = none

/-- Whether a poll ended with an error that says that content could not be decoded. -/
def isDecodeError (result : PollEnd) : Bool :=
  match result with
  | .ok _ _ => false
  | .error failure _ => failure.report.watchKind? = some .decode

namespace Scene

/-- How many polls among the moves end with an error of decoding. -/
def decodeErrors : (moves : List Move) -> Scene -> Nat
  | [], _ => 0
  | move :: moves, scene =>
      (if move = .poll ∧ isDecodeError (Watcher.poll scene) then 1 else 0) +
        decodeErrors moves (move.apply scene)

/-- Nothing was decoded or tried yet. -/
theorem agrees_of_fresh {scene : Scene} (progress : scene.watcher.progress = {})
    (tally : scene.watcher.tally = {}) : scene.Agrees := by
  constructor <;> (rw [progress, tally]; decide)

theorem Agrees.of_active {scene : Scene} (state : scene.watcher.progress.decodeState = .active)
    (decoded : 0 < scene.watcher.tally.decoded)
    (failures : scene.watcher.tally.decodeFailures = 0) : scene.Agrees := by
  constructor
  · rw [state, failures]
    exact ⟨fun impossible => (by cases impossible), fun both => by omega⟩
  · rw [state, failures]
    exact ⟨fun _ => ⟨decoded, rfl⟩, fun _ => rfl⟩
  · rw [state, failures]
    exact ⟨fun impossible => (by cases impossible), fun impossible => by omega⟩

theorem Agrees.of_disabled {scene : Scene} (state : scene.watcher.progress.decodeState = .disabled)
    (failures : scene.watcher.tally.decodeFailures = 1) : scene.Agrees := by
  constructor
  · rw [state, failures]
    exact ⟨fun impossible => (by cases impossible), fun both => by omega⟩
  · rw [state, failures]
    exact ⟨fun impossible => (by cases impossible), fun both => by omega⟩
  · exact ⟨fun _ => failures, fun _ => state⟩

/-- Agreement is about nothing but what is known about decoding. -/
theorem Agrees.of_decoding {scene other : Scene} (agrees : scene.Agrees)
    (same : other.decoding = scene.decoding) : other.Agrees := by
  unfold decoding at same
  rw [Prod.mk.injEq, Prod.mk.injEq] at same
  rcases same with ⟨state, decoded, failures⟩
  constructor
  · rw [state, decoded, failures]
    exact agrees.untried
  · rw [state, decoded, failures]
    exact agrees.active
  · rw [state, failures]
    exact agrees.disabled

theorem Agrees.failures_of_trusting {scene : Scene} (agrees : scene.Agrees)
    (trusting : scene.watcher.progress.decodeState ≠ .disabled) :
    scene.watcher.tally.decodeFailures = 0 := by
  cases state : scene.watcher.progress.decodeState with
  | untried => exact (agrees.untried.mp state).2
  | active => exact (agrees.active.mp state).2
  | disabled => exact absurd state trusting

theorem Agrees.failures_le {scene : Scene} (agrees : scene.Agrees) :
    scene.watcher.tally.decodeFailures ≤ 1 := by
  by_cases disabled : scene.watcher.progress.decodeState = .disabled
  · exact Nat.le_of_eq (agrees.disabled.mp disabled)
  · rw [agrees.failures_of_trusting disabled]
    exact Nat.zero_le 1

theorem trusting_of_unpacks {scene : Scene} {encoding : Option String}
    (unpacks : scene.unpacks encoding = true) : scene.watcher.progress.decodeState ≠ .disabled := by
  intro disabled
  unfold Scene.unpacks Progress.mayDecode at unpacks
  rw [disabled] at unpacks
  cases unpacks

end Scene

theorem Progress.markDecoded_of_trusting {progress : Progress}
    (trusting : progress.decodeState ≠ .disabled) :
    progress.markDecoded.decodeState = .active := by
  unfold markDecoded
  cases before : progress.decodeState with
  | untried => rfl
  | active => exact before
  | disabled => exact absurd before trusting

/-! ## Opening content -/

namespace OpeningCourse

variable {scene : Scene} {token : String} {body : Body} {encoding : Option String}
  {result : PollEnd}

/-- Whatever becomes of the content, the state and the counters agree, and the state stays or moves
on. -/
theorem agrees (course : OpeningCourse scene token body encoding result) (agrees : scene.Agrees) :
    (stateOf result).Agrees ∧
      ((stateOf result).watcher.progress.decodeState = scene.watcher.progress.decodeState ∨
        scene.watcher.progress.decodeState.Leads (stateOf result).watcher.progress.decodeState) := by
  cases course with
  | raw asIs => exact ⟨agrees, .inl rfl⟩
  | broken cause left unpacks failed unrelated => exact ⟨agrees, .inl rfl⟩
  | unpacked stream unpacks opened =>
      have trusting := Scene.trusting_of_unpacks unpacks
      have state := Progress.markDecoded_of_trusting trusting
      refine ⟨.of_active state (Nat.succ_pos _) (agrees.failures_of_trusting trusting), ?_⟩
      show scene.watcher.progress.markDecoded.decodeState = _ ∨
        DecodeState.Leads _ scene.watcher.progress.markDecoded.decodeState
      rw [state]
      cases before : scene.watcher.progress.decodeState with
      | untried => exact .inr .activated
      | active => exact .inl rfl
      | disabled => exact absurd before trusting
  | notGzip cause left unpacks failed spoils =>
      have trusting := Scene.trusting_of_unpacks unpacks
      have state : (scene.givenUp cause).watcher.progress.decodeState = .disabled := by
        rw [scene.givenUp_watcher]
        rfl
      have failures : (scene.givenUp cause).watcher.tally.decodeFailures = 1 := by
        rw [scene.givenUp_watcher]
        exact congrArg (· + 1) (agrees.failures_of_trusting trusting)
      refine ⟨.of_disabled state failures, .inr ?_⟩
      show DecodeState.Leads _ (scene.givenUp cause).watcher.progress.decodeState
      rw [state]
      exact .givenUp trusting

/-- The counted failures are the errors of decoding, for a body without errors of that family. -/
theorem failures (course : OpeningCourse scene token body encoding result)
    (foreign : body.RaisesForeign) :
    (stateOf result).watcher.tally.decodeFailures =
      scene.watcher.tally.decodeFailures + if isDecodeError result then 1 else 0 := by
  cases course with
  | raw asIs => rfl
  | unpacked stream unpacks opened => rfl
  | broken cause left unpacks failed unrelated =>
      have other : cause.watchKind? = none := by
        rcases Gzip.Stream.openBody_allows failed with (failure | spoils | ⟨_, closed⟩) | refuses
        · exact foreign.reading cause failure
        · rw [unrelated] at spoils
          cases spoils
        · rw [closed]
          rfl
        · exact foreign.closing cause refuses
      have report : (Failure.opening cause left).report.watchKind? = cause.watchKind? := by
        cases cause <;> rfl
      have told : isDecodeError (.error (.opening cause left) scene) = false := by
        refine decide_eq_false ?_
        rw [report, other]
        exact fun impossible => (by cases impossible)
      rw [told]
      rfl
  | notGzip cause left unpacks failed spoils =>
      show (scene.givenUp cause).watcher.tally.decodeFailures = _
      rw [scene.givenUp_watcher]
      rfl

end OpeningCourse

/-! ## Polls and runs -/

namespace Course

variable {scene : Scene} {result : PollEnd}

theorem agrees (course : Course scene result) (agrees : scene.Agrees) :
    (stateOf result).Agrees ∧
      ((stateOf result).watcher.progress.decodeState = scene.watcher.progress.decodeState ∨
        scene.watcher.progress.decodeState.Leads (stateOf result).watcher.progress.decodeState) := by
  rcases course.opening_or_endsEarly with ⟨metadata, body, encoding, _, _, opening⟩ | early
  · have before := agrees.of_decoding (scene.supplied_decoding metadata.token)
    have after := opening.agrees before
    rw [Scene.supplied_decodeState] at after
    exact after
  · exact ⟨agrees.of_decoding early.unaffected, .inl (congrArg Prod.fst early.unaffected)⟩

theorem failures (course : Course scene result)
    (foreign : scene.around.remote.Serves Body.RaisesForeign) :
    (stateOf result).watcher.tally.decodeFailures =
      scene.watcher.tally.decodeFailures + if isDecodeError result then 1 else 0 := by
  have counter : forall other : Scene, other.decoding = scene.decoding ->
      other.watcher.tally.decodeFailures = scene.watcher.tally.decodeFailures :=
    fun _ same => congrArg (fun known => known.2.2) same
  rcases course.opening_or_endsEarly with ⟨metadata, body, encoding, _, brings, opening⟩ | early
  · have after := opening.failures (foreign.next brings)
    rw [counter _ (scene.supplied_decoding metadata.token)] at after
    exact after
  · have told : isDecodeError result = false := by
      cases result with
      | ok content after => rfl
      | error failure after => exact decide_eq_false (early.undecoded failure after rfl)
    rw [told, counter _ early.unaffected]
    rfl

end Course

theorem Move.agrees (move : Move) {scene : Scene} (agrees : scene.Agrees) :
    (move.apply scene).Agrees ∧
      ((move.apply scene).watcher.progress.decodeState = scene.watcher.progress.decodeState ∨
        scene.watcher.progress.decodeState.Leads
          (move.apply scene).watcher.progress.decodeState) := by
  cases move with
  | poll => exact (poll_course scene).agrees agrees
  | cancel => exact ⟨agrees.of_decoding rfl, .inl rfl⟩
  | reset => exact ⟨agrees.of_decoding rfl, .inl rfl⟩

theorem Move.failures (move : Move) {scene : Scene}
    (foreign : scene.around.remote.Serves Body.RaisesForeign) :
    (move.apply scene).watcher.tally.decodeFailures =
      scene.watcher.tally.decodeFailures +
        if move = .poll ∧ isDecodeError (Watcher.poll scene) then 1 else 0 := by
  cases move with
  | poll =>
      have counted := (poll_course scene).failures foreign
      simp only [true_and]
      exact counted
  | cancel => rfl
  | reset => rfl

namespace Scene

theorem run_agrees (moves : List Move) {scene : Scene} (agrees : scene.Agrees) :
    (scene.run moves).Agrees := by
  induction moves generalizing scene with
  | nil => exact agrees
  | cons move moves inductionHypothesis => exact inductionHypothesis (move.agrees agrees).1

theorem run_failures (moves : List Move) {scene : Scene}
    (foreign : scene.around.remote.Serves Body.RaisesForeign) :
    (scene.run moves).watcher.tally.decodeFailures =
      scene.watcher.tally.decodeFailures + scene.decodeErrors moves := by
  induction moves generalizing scene with
  | nil => rfl
  | cons move moves inductionHypothesis =>
      rw [run_cons, inductionHypothesis (foreign.apply move), move.failures foreign, decodeErrors,
        Nat.add_assoc]

end Scene

/-! ## Which polls read from the body -/

/-- The fault that was met when content was opened, if a failure is about that. -/
def Failure.openingFault? : Failure -> Option Fault
  | .decode _ _ cause _ => some cause
  | .opening cause _ => some cause
  | _ => none

/-- A body that fails as soon as it is read. -/
def Body.unreadable (fault : Fault) : Body := { rest := [], failure := some fault }

/-- A poll reads from the body that it retrieves: if the body failed as soon as it is read, the poll
would fail with its fault. -/
def Scene.ReadsBody (scene : Scene) : Prop :=
  forall fault, exists failure after,
    Watcher.poll (scene.serving (.unreadable fault)) = .error failure after ∧
      failure.openingFault? = some fault

/-- An encoding holds the word for gzip, in any letter case. -/
def MentionsGzip (encoding : Option String) : Prop :=
  exists word, word <:+: (encoding.getD "").toList ∧ word.map Text.lower = gzipWord.toList

theorem Text.occurs_iff (part : List Char) (text : List Char) :
    Text.occurs part text = true ↔ part <:+: text := by
  induction text with
  | nil => simp [Text.occurs]
  | cons letter rest inductionHypothesis =>
      rw [Text.occurs, Bool.or_eq_true, inductionHypothesis, List.isPrefixOf_iff_prefix,
        List.infix_cons_iff]

theorem isTransportCompressed_iff (encoding : Option String) :
    isTransportCompressed encoding = true ↔ MentionsGzip encoding := by
  unfold isTransportCompressed MentionsGzip Text.toLower
  rw [Text.occurs_iff, String.toList_map]
  generalize (encoding.getD "").toList = letters
  constructor
  · rintro ⟨before, after, split⟩
    rcases List.map_eq_append_iff.mp split.symm with ⟨front, _, rfl, frontEq, _⟩
    rcases List.map_eq_append_iff.mp frontEq with ⟨first, word, rfl, _, same⟩
    exact ⟨word, ⟨first, _, rfl⟩, same⟩
  · rintro ⟨word, ⟨first, last, rfl⟩, same⟩
    rw [List.map_append, List.map_append, same]
    exact ⟨_, _, rfl⟩

theorem expectsCompressed_iff (key : String) :
    expectsCompressed key = true ↔ ".gz".toList <:+ key.toList :=
  List.isSuffixOf_iff_suffix

/-- Content is unpacked by its key and its encoding, unless decoding is disabled. -/
theorem Scene.unpacks_iff (scene : Scene) (encoding : Option String) :
    scene.unpacks encoding = true ↔
      ".gz".toList <:+ scene.watcher.target.key.toList ∧ ¬ MentionsGzip encoding ∧
        scene.watcher.progress.decodeState ≠ .disabled := by
  unfold Scene.unpacks Progress.mayDecode
  rw [Bool.and_eq_true, Bool.and_eq_true, expectsCompressed_iff, ← isTransportCompressed_iff,
    Bool.not_eq_true', Bool.not_eq_true, decide_eq_true_iff]
  constructor
  · rintro ⟨⟨trusting, named⟩, plain⟩
    exact ⟨named, plain, trusting⟩
  · rintro ⟨named, plain, trusting⟩
    exact ⟨⟨trusting, named⟩, plain⟩

/-- A body that cannot be read cannot be opened. -/
theorem Gzip.openBody_unreadable (fault : Fault) :
    exists left, openBody (.unreadable fault) = .error (fault, left) := by
  have header : readHeader (Stream.ofBody (.unreadable fault)).reader.bound
      (Stream.ofBody (.unreadable fault)).reader.source =
        .error fault ⟨[], .unreadable fault⟩ := rfl
  have primed := Stream.prime_of_header_error header
  rcases Stream.openBody_of_error primed with ⟨told, left, failed, rfl | ⟨_, refuses⟩⟩
  · exact ⟨left, failed⟩
  · cases refuses

namespace Scene

variable {scene : Scene} {body : Body} {encoding : Option String}

/-- A body that is not unpacked comes back as it was served. -/
theorem Retrieves.poll_of_asIs (retrieves : scene.Retrieves body encoding)
    (asIs : scene.unpacks encoding = false) :
    exists after, Watcher.poll scene = .ok (some (.raw body)) after ∧
      after.watcher.progress.decodeState = scene.watcher.progress.decodeState := by
  rcases (poll_course scene).opening retrieves.1 retrieves.2 with ⟨metadata, _, course⟩
  generalize Watcher.poll scene = result at course
  cases course with
  | raw _ => exact ⟨_, rfl, supplied_decodeState _ scene⟩
  | unpacked stream unpacks opened => simp [asIs] at unpacks
  | broken cause left unpacks failed unrelated => simp [asIs] at unpacks
  | notGzip cause left unpacks failed spoils => simp [asIs] at unpacks

/-- A body that is unpacked and cannot be opened makes the poll fail, and the failure keeps what is left
of the body. -/
theorem Retrieves.poll_of_unopened {fault : Fault} {left : Body}
    (retrieves : scene.Retrieves body encoding) (unpacks : scene.unpacks encoding = true)
    (fails : Gzip.openBody body = .error (fault, left)) :
    exists failure after, Watcher.poll scene = .error failure after ∧
      failure.openingFault? = some fault ∧ failure.body? = some left := by
  rcases (poll_course scene).opening retrieves.1 retrieves.2 with ⟨metadata, _, course⟩
  generalize Watcher.poll scene = result at course
  cases course with
  | raw asIs => simp [unpacks] at asIs
  | unpacked stream _ opened =>
      rw [fails] at opened
      cases opened
  | broken cause _ _ failed _ =>
      rw [fails] at failed
      cases failed
      exact ⟨_, _, rfl, rfl, rfl⟩
  | notGzip cause _ _ failed _ =>
      rw [fails] at failed
      cases failed
      exact ⟨_, _, rfl, rfl, rfl⟩

theorem Retrieves.readsBody_iff (retrieves : scene.Retrieves body encoding) :
    scene.ReadsBody ↔ scene.unpacks encoding = true := by
  constructor
  · intro reads
    cases asIs : scene.unpacks encoding with
    | true => rfl
    | false =>
        let fault : Fault := .other ""
        rcases reads fault with ⟨failure, after, failed, _⟩
        rcases (retrieves.serving (.unreadable fault)).poll_of_asIs asIs with ⟨_, returned, _⟩
        rw [failed] at returned
        cases returned
  · intro unpacks fault
    rcases Gzip.openBody_unreadable fault with ⟨left, fails⟩
    rcases (retrieves.serving (.unreadable fault)).poll_of_unopened unpacks fails with
      ⟨failure, after, failed, met, _⟩
    exact ⟨failure, after, failed, met⟩

end Scene

/-! ## The life of decoding -/

/-- In every run the state of decoding agrees with the counters and only moves on.  At most one poll
ends with an error of decoding.  A poll reads from the body that it retrieves exactly when the key
names a gzip file, the encoding does not mention gzip and decoding is not disabled, and from every
other body nothing is read: it is returned as it was served, and the state stays. -/
theorem decoding_lifecycle {start : Scene} (agrees : start.Agrees) (moves : List Move) :
    (start.run moves).Agrees ∧
      (forall move : Move,
        (move.apply (start.run moves)).watcher.progress.decodeState =
            (start.run moves).watcher.progress.decodeState ∨
          (start.run moves).watcher.progress.decodeState.Leads
            (move.apply (start.run moves)).watcher.progress.decodeState) ∧
      (start.around.remote.Serves Body.RaisesForeign -> start.decodeErrors moves ≤ 1) ∧
      forall body encoding, (start.run moves).Retrieves body encoding ->
        ((start.run moves).ReadsBody ↔
          ".gz".toList <:+ (start.run moves).watcher.target.key.toList ∧ ¬ MentionsGzip encoding ∧
            (start.run moves).watcher.progress.decodeState ≠ .disabled) ∧
        (¬ (start.run moves).ReadsBody ->
          exists after, Watcher.poll (start.run moves) = .ok (some (.raw body)) after ∧
            after.watcher.progress.decodeState =
              (start.run moves).watcher.progress.decodeState) := by
  have law := start.run_agrees moves agrees
  refine ⟨law, fun move => (move.agrees law).2, fun foreign => ?_, fun body encoding retrieves => ?_⟩
  · have counted := start.run_failures moves foreign
    have few := law.failures_le
    omega
  · refine ⟨retrieves.readsBody_iff.trans ((start.run moves).unpacks_iff encoding), fun unread => ?_⟩
    rw [retrieves.readsBody_iff, Bool.not_eq_true] at unread
    exact retrieves.poll_of_asIs unread

/-- A store that serves a gzip file, then content that is none, then a gzip file again. -/
def relapsing : Scene where
  watcher :=
    { target := { bucket := "b", key := "k.gz" }
      credentials := some (Credentials.resolve { bucket := "b", key := "k.gz" } []) }
  around :=
    { remote :=
        { heads :=
            [{ outcome := .ok { tag := some "first" } }, { outcome := .ok { tag := some "second" } },
              { outcome := .ok { tag := some "third" } }]
          gets :=
            [{ outcome := .ok { body := some (.ofBytes Gzip.letterMember) } },
              { outcome := .ok { body := some (.ofBytes [0, 1]) } },
              { outcome := .ok { body := some (.ofBytes Gzip.letterMember) } }] } }

theorem servesForeign_relapsing : relapsing.around.remote.Serves Body.RaisesForeign := by
  have all : downloadsOf relapsing.around.remote.gets =
      [(.ofBytes Gzip.letterMember, none), (.ofBytes [0, 1], none),
        (.ofBytes Gzip.letterMember, none)] := rfl
  have plain : forall bytes, (Body.ofBytes bytes).RaisesForeign := fun bytes =>
    ⟨fun _ impossible => (by cases impossible), fun _ impossible => (by cases impossible)⟩
  intro body encoding member
  rw [all] at member
  simp only [List.mem_cons, Prod.mk.injEq, List.not_mem_nil, or_false] at member
  rcases member with ⟨rfl, _⟩ | ⟨rfl, _⟩ | ⟨rfl, _⟩ <;> exact plain _

/-- The second version ends decoding with an error, and the third is returned as it was served. -/
theorem decoding_lifecycle_relapsing :
    relapsing.Agrees ∧ relapsing.around.remote.Serves Body.RaisesForeign ∧
      relapsing.decodeErrors [.poll, .poll] ≤ 1 ∧
      relapsing.decodeErrors [.poll, .poll] = 1 ∧
      (relapsing.run [.poll]).watcher.progress.decodeState = .active ∧
      (relapsing.run [.poll, .poll]).Agrees ∧
      (relapsing.run [.poll, .poll]).Retrieves (.ofBytes Gzip.letterMember) none ∧
      ¬ (relapsing.run [.poll, .poll]).ReadsBody ∧
      exists after, Watcher.poll (relapsing.run [.poll, .poll]) =
          .ok (some (.raw (.ofBytes Gzip.letterMember))) after ∧
        after.watcher.progress.decodeState = .disabled := by
  have agrees : relapsing.Agrees := Scene.agrees_of_fresh rfl rfl
  have errors : relapsing.decodeErrors [.poll, .poll] = 1 := by decide +kernel
  have active : (relapsing.run [.poll]).watcher.progress.decodeState = .active := by decide +kernel
  have disabled : (relapsing.run [.poll, .poll]).watcher.progress.decodeState = .disabled := by
    decide +kernel
  have asked : (stateOf (Watcher.poll (relapsing.run [.poll, .poll]))).gets =
      (relapsing.run [.poll, .poll]).gets + 1 := by decide +kernel
  have left : (relapsing.run [.poll, .poll]).around.remote.gets.length = 1 := by decide +kernel
  rcases relapsing.run_account [.poll, .poll] with ⟨heads, gets, given, _⟩
  have replies : [{ outcome := .ok { body := some (.ofBytes Gzip.letterMember) } },
      { outcome := .ok { body := some (.ofBytes [0, 1]) } }] ++
      [{ outcome := .ok { body := some (.ofBytes Gzip.letterMember) } }] =
      gets ++ (relapsing.run [.poll, .poll]).around.remote.gets := given.gets
  have last := List.append_inj_right' replies left.symm
  have brings : (relapsing.run [.poll, .poll]).getReply.download? =
      some (.ofBytes Gzip.letterMember, none) := by
    unfold Scene.getReply Remote.get
    rw [← last]
    rfl
  rcases decoding_lifecycle agrees [.poll, .poll] with ⟨agree, _, atMostOne, reading⟩
  rcases reading _ _ ⟨asked, brings⟩ with ⟨reads, returned⟩
  have unread : ¬ (relapsing.run [.poll, .poll]).ReadsBody :=
    fun read => (reads.mp read).2.2 disabled
  rcases returned unread with ⟨after, polled, same⟩
  exact ⟨agrees, servesForeign_relapsing, atMostOne servesForeign_relapsing, errors, active, agree,
    ⟨asked, brings⟩, unread, after, polled, same.trans disabled⟩

end ObjectWatch
