import ObjectWatch.Proofs.Service.EarlyStop
import ObjectWatch.Proofs.Watcher.Covering
import ObjectWatch.Service.Launch

/-!
# Keys stay secret

Take two services whose settings and environments differ in nothing but what their keys are.  They are
prepared and run with the same ends: they note the same, call the same, fetch and deliver the same, and
show the same credentials.  Only the keys among the options of their clients are their own.

Both runs are followed at once, with the keys covered.  Covered services are the same at the beginning, and
everything that a service does is decided by the covered one.
-/

namespace ObjectWatch

open EnvFile (Environment)

/-! ## Keys that differ -/

/-- Settings that differ in nothing but keys, and not in which of the keys are empty. -/
structure Settings.DifferInKeys (first second : Settings) : Prop where
  accessKey : first.accessKey = "" ↔ second.accessKey = ""
  secretKey : first.secretKey = "" ↔ second.secretKey = ""
  rest : { second with accessKey := first.accessKey, secretKey := first.secretKey } = first

/-- Environments that do not differ in which of the variables that hold keys are empty.  A variable that is
missing counts as empty, and nothing is asked of the other variables. -/
def EnvFile.Environment.DifferInKeys (first second : Environment) : Prop :=
  forall name, name ∈ Credentials.keyNames ->
    ((first.lookup name).getD "" = "" ↔ (second.lookup name).getD "" = "")

/-- Services that differ in nothing but the keys in their settings and in their environments. -/
structure Service.DifferInKeys (first second : Service) : Prop where
  settings : first.settings.DifferInKeys second.settings
  environment : first.environment.DifferInKeys second.environment
  rest : { second with settings := first.settings, environment := first.environment } = first

theorem Settings.DifferInKeys.covered_eq {first second : Settings} (differ : first.DifferInKeys second) :
    first.covered = second.covered := by
  have accessKey := Text.covered_eq_iff.mpr differ.accessKey
  have secretKey := Text.covered_eq_iff.mpr differ.secretKey
  have covered : first.covered =
      { second.covered with
        accessKey := Text.covered first.accessKey, secretKey := Text.covered first.secretKey } :=
    congrArg Settings.covered differ.rest.symm
  rw [covered, accessKey, secretKey]
  rfl

theorem EnvFile.Environment.DifferInKeys.covered_eq {first second : Environment}
    (differ : first.DifferInKeys second) : first.covered = second.covered := by
  apply List.map_congr_left
  intro name isKey
  exact congrArg (Prod.mk name) (Text.covered_eq_iff.mpr (differ name isKey))

/-! ## Covered services -/

namespace Service

/-- A service of which the keys are covered. -/
def covered (service : Service) : Service :=
  { service with
    settings := service.settings.covered
    environment := service.environment.covered
    watcher := service.watcher.map Watcher.covered
    around := service.around.covered }

theorem DifferInKeys.covered_eq {first second : Service} (differ : first.DifferInKeys second) :
    first.covered = second.covered := by
  have covered : first.covered =
      { second.covered with
        settings := first.settings.covered, environment := first.environment.covered } :=
    congrArg Service.covered differ.rest.symm
  rw [covered, differ.settings.covered_eq, differ.environment.covered_eq]
  rfl

/-- What is not covered can be told from the covered service. -/
theorem eq_of_covered {α : Type} (part : Service -> α)
    (shown : forall service : Service, part service.covered = part service) {service other : Service}
    (same : service.covered = other.covered) : part service = part other := by
  rw [← shown service, same, shown other]

theorem scene?_covered (service : Service) : service.covered.scene? = service.scene?.map Scene.covered := by
  unfold scene? covered
  cases service.watcher <;> rfl

theorem noted_covered (notice : Notice) (service : Service) :
    (service.noted notice).covered = service.covered.noted notice :=
  congrArg (fun around => { service.covered with around }) (service.around.note_covered notice)

theorem failedAgain_covered (notice : Report -> Nat -> Notice) (report : Report) (service : Service) :
    (service.failedAgain notice report).covered = service.covered.failedAgain notice report :=
  noted_covered _ { service with failures := service.failures + 1 }

theorem troubled_covered (notice : Report -> Nat -> Notice) (report : Report) (service : Service) :
    (service.troubled notice report).covered = service.covered.troubled notice report := by
  unfold troubled
  dsimp only
  rw [← failedAgain_covered]
  generalize service.failedAgain notice report = failed
  have reaches : failed.covered.ReachesLimit ↔ failed.ReachesLimit := Iff.rfl
  by_cases limit : failed.ReachesLimit
  · rw [if_pos limit, if_pos (reaches.mpr limit)]
    exact congrArg (fun told : Service => { told with failed := true, around.running := false })
      (noted_covered _ failed)
  · rw [if_neg limit, if_neg (mt reaches.mp limit)]

theorem fitted_covered (scene : Scene) (service : Service) :
    (service.fitted scene).covered = service.covered.fitted scene.covered :=
  noted_covered _ { service.withScene scene with
    sink := service.sink.orElse fun _ => some (sinkOf service.settings) }

/-- Covered keys make the covered watcher, or none for the same reason. -/
theorem candidate_covered (service : Service) :
    service.covered.candidate = service.candidate.map Watcher.covered := by
  have settings : service.covered.settings.target = service.settings.target.map Target.covered :=
    service.settings.target_covered
  unfold candidate
  rw [settings]
  unfold covered
  cases service.watcher with
  | some watcher => rfl
  | none =>
      cases service.settings.target with
      | ok target => rfl
      | error rejection => rfl

/-! ## What a service does -/

theorem note_decided (notice : Notice) : DecidedBy covered (note notice) :=
  .of_modify (noted notice) (noted_covered notice)

theorem setRunning_decided (running : Bool) : DecidedBy covered (setRunning running) :=
  .of_modify (fun service => { service with around.running := running }) fun _ => rfl

theorem clearFailures_decided : DecidedBy covered clearFailures :=
  .of_modify (fun service => { service with failures := 0 }) fun _ => rfl

theorem recordFailure_decided (notice : Report -> Nat -> Notice) (report : Report) :
    DecidedBy covered (recordFailure notice report) := by
  intro service other same
  rw [recordFailure_apply, recordFailure_apply]
  apply LookSame.ok
  rw [troubled_covered, troubled_covered, same]

theorem handleFailure_decided (failure : Failure) : DecidedBy covered (handleFailure failure) := by
  intro service other same
  rw [handleFailure_apply, handleFailure_apply]
  split
  · apply LookSame.ok
    rw [noted_covered, noted_covered, same]
  · split
    · apply LookSame.ok
      rw [troubled_covered, troubled_covered, same]
    · exact .error failure same

/-- The sink gets no key. -/
theorem deliver_decided (sink : Sink) (content : Content) : DecidedBy covered (deliver sink content) := by
  intro service other same
  have storage : service.storage = other.storage := eq_of_covered (·.storage) (fun _ => rfl) same
  unfold deliver
  rw [storage]
  cases sink.deliver { content, place := other.storage } with
  | ok size transfer =>
      exact .ok _ (congrArg (fun covered : Service => { covered with storage := transfer.place }) same)
  | error fault transfer =>
      exact .ok _ (congrArg (fun covered : Service => { covered with storage := transfer.place }) same)

theorem lastToken_covered (service : Service) : service.covered.lastToken = service.lastToken := by
  unfold lastToken covered
  cases service.watcher <;> rfl

theorem publish_decided (sink : Sink) (content : Content) : DecidedBy covered (publish sink content) := by
  apply DecidedBy.bind (deliver_decided sink content)
  intro delivery
  cases delivery with
  | error fault =>
      dsimp only
      split
      · exact .throw _
      · exact recordFailure_decided .writingFailed (.ofFault fault)
  | ok size =>
      apply DecidedBy.bind clearFailures_decided
      intro _
      apply DecidedBy.of_get
      · intro service
        exact note_decided _
      · intro service other same
        rw [eq_of_covered lastToken lastToken_covered same]

/-- What a service takes over from scenes that look the same looks the same. -/
theorem withScene_covered {service other : Service} (same : service.covered = other.covered)
    {scene after : Scene} (alike : scene.covered = after.covered) :
    (service.withScene scene).covered = (other.withScene after).covered := by
  have taken : forall (service : Service) (scene : Scene),
      (service.withScene scene).covered = service.covered.withScene scene.covered := fun _ _ => rfl
  rw [taken, taken, same, alike]

/-- Services that look the same have scenes that do, or none. -/
theorem scene?_cases {service other : Service} (same : service.covered = other.covered) :
    (service.scene? = none ∧ other.scene? = none) ∨
      exists scene after, service.scene? = some scene ∧ other.scene? = some after ∧
        scene.covered = after.covered := by
  have alike : service.scene?.map Scene.covered = other.scene?.map Scene.covered := by
    rw [← scene?_covered, ← scene?_covered, same]
  cases isScene : service.scene? with
  | none =>
      rw [isScene] at alike
      exact .inl ⟨rfl, Option.map_eq_none_iff.mp alike.symm⟩
  | some scene =>
      rw [isScene] at alike
      rcases Option.map_eq_some_iff.mp alike.symm with ⟨after, isAfter, covered⟩
      exact .inr ⟨scene, after, rfl, isAfter, covered.symm⟩

/-- A round goes by nothing that is covered. -/
theorem pollOnce_decided (sink : Sink) : DecidedBy covered (pollOnce sink) := by
  intro service other same
  rcases scene?_cases same with ⟨absent, otherAbsent⟩ | ⟨scene, after, isScene, isAfter, alike⟩
  · rw [pollOnce_of_no_scene absent, pollOnce_of_no_scene otherAbsent]
    exact .error _ same
  · have polled := Watcher.poll_decided scene after alike
    rw [pollOnce_of_scene isScene, pollOnce_of_scene isAfter]
    generalize Watcher.poll scene = result, Watcher.poll after = otherResult at polled
    cases polled with
    | error failure left => exact handleFailure_decided failure _ _ (withScene_covered same left)
    | ok content left =>
        have taken := withScene_covered same left
        cases content with
        | none => exact .ok true (congrArg (fun covered : Service => { covered with failures := 0 }) taken)
        | some content =>
            have published := publish_decided sink content _ _ taken
            exact published.bind fun _ => .pure true

/-- Rounds go by nothing that is covered. -/
theorem pollRounds_decided (sink : Sink) (rounds : Nat) : DecidedBy covered (pollRounds sink rounds) := by
  induction rounds with
  | zero => exact .pure ()
  | succ rounds inductionHypothesis =>
      apply DecidedBy.of_get
      · intro service
        apply DecidedBy.ite
        · exact .pure ()
        · apply DecidedBy.bind (pollOnce_decided sink)
          intro goesOn
          exact .ite inductionHypothesis (.pure ())
      · intro service other same
        rw [eq_of_covered (·.around.running) (fun _ => rfl) same]

/-- What a watcher has counted is told at the end of a run, and no key is among it. -/
theorem tally_covered (service : Service) :
    service.covered.watcher.map Watcher.tally = service.watcher.map Watcher.tally := by
  unfold covered
  cases service.watcher <;> rfl

theorem runFor_decided (rounds : Nat) : DecidedBy covered (runFor rounds) := by
  apply DecidedBy.of_get
  · intro service
    cases service.watcher with
    | none => exact .throw _
    | some watcher =>
        cases service.sink with
        | none => exact .throw _
        | some sink =>
            apply DecidedBy.bind (setRunning_decided true)
            intro _
            apply DecidedBy.bind (note_decided .loopStarted)
            intro _
            apply DecidedBy.bind (pollRounds_decided sink rounds)
            intro _
            apply DecidedBy.bind (setRunning_decided false)
            intro _
            apply DecidedBy.of_get
            · intro finished
              exact note_decided _
            · intro finished other same
              rw [eq_of_covered (·.watcher.map Watcher.tally) tally_covered same]
  · intro service other same
    have sinks : service.sink = other.sink := eq_of_covered (·.sink) (fun _ => rfl) same
    rw [sinks]
    rcases scene?_cases same with ⟨absent, otherAbsent⟩ | ⟨scene, after, isScene, isAfter, alike⟩
    · rw [Option.map_eq_none_iff.mp absent, Option.map_eq_none_iff.mp otherAbsent]
    · rcases Option.map_eq_some_iff.mp isScene with ⟨watcher, isWatcher, _⟩
      rcases Option.map_eq_some_iff.mp isAfter with ⟨another, isOther, _⟩
      rw [isWatcher, isOther]
      cases other.sink <;> rfl

theorem run_decided : DecidedBy covered run := by
  apply DecidedBy.of_get
  · intro service
    exact runFor_decided _
  · intro service other same
    rw [eq_of_covered roundsBound (fun _ => rfl) same]

/-- Services that look the same make watchers that do, or none for the same reason. -/
theorem candidate_cases {service other : Service} (same : service.covered = other.covered) :
    (exists rejection, service.candidate = .error rejection ∧ other.candidate = .error rejection) ∨
      exists watcher another, service.candidate = .ok watcher ∧ other.candidate = .ok another ∧
        watcher.covered = another.covered := by
  have alike : service.candidate.map Watcher.covered = other.candidate.map Watcher.covered := by
    rw [← candidate_covered, ← candidate_covered, same]
  cases isMade : service.candidate with
  | error rejection =>
      cases isOther : other.candidate with
      | error refusal =>
          rw [isMade, isOther] at alike
          cases alike
          exact .inl ⟨rejection, rfl, rfl⟩
      | ok another =>
          rw [isMade, isOther] at alike
          cases alike
  | ok watcher =>
      cases isOther : other.candidate with
      | error refusal =>
          rw [isMade, isOther] at alike
          cases alike
      | ok another =>
          rw [isMade, isOther] at alike
          exact .inr ⟨watcher, another, rfl, rfl, Except.ok.inj alike⟩

/-- A preparation goes by nothing that is covered. -/
theorem prepare_decided : DecidedBy covered prepare := by
  intro service other same
  have told : (service.noted .preparing).covered = (other.noted .preparing).covered := by
    rw [noted_covered, noted_covered, same]
  rcases candidate_cases same with
    ⟨rejection, unmade, otherUnmade⟩ | ⟨watcher, another, isMade, isOther, alike⟩
  · rw [prepare_of_rejected unmade, prepare_of_rejected otherUnmade]
    exact .error _ told
  · have around := congrArg Service.around told
    have scenes : Scene.covered { watcher, around := (service.noted .preparing).around } =
        Scene.covered { watcher := another, around := (other.noted .preparing).around } := by
      unfold Scene.covered
      rw [alike]
      exact congrArg (Scene.mk another.covered) around
    have prepared := Watcher.prepare_decided _ _ scenes
    rw [prepare_of_candidate isMade, prepare_of_candidate isOther]
    generalize Watcher.prepare { watcher, around := (service.noted .preparing).around } = result,
      Watcher.prepare { watcher := another, around := (other.noted .preparing).around } =
        otherResult at prepared
    cases prepared with
    | ok value left =>
        apply LookSame.ok
        rw [fitted_covered, fitted_covered, told, left]
    | error failure left => exact .error failure (withScene_covered told left)

/-! ## What can be seen of a service -/

/-- What can be seen of a service from outside. -/
structure Overt where
  /-- Everything that was noted and called, in this order.  The keys of clients are covered. -/
  journal : Journal
  /-- The form in which the credentials of the watcher are shown. -/
  credentials : Option String
  storage : Storage
  failed : Bool
  failures : Nat
  running : Bool

/-- What can be seen of the service. -/
def overt (service : Service) : Overt where
  journal := service.around.journal.covered
  credentials := service.watcher.bind fun watcher => watcher.credentials.map Credentials.shown
  storage := service.storage
  failed := service.failed
  failures := service.failures
  running := service.around.running

theorem shown_covered (service : Service) :
    (service.covered.watcher.bind fun watcher => watcher.credentials.map Credentials.shown) =
      service.watcher.bind fun watcher => watcher.credentials.map Credentials.shown := by
  unfold covered
  cases service.watcher with
  | none => rfl
  | some watcher =>
      rcases watcher with ⟨_, _, _, credentials⟩
      cases credentials with
      | none => rfl
      | some credentials => exact congrArg some credentials.shown_covered

theorem overt_of_covered {service other : Service} (same : service.covered = other.covered) :
    service.overt = other.overt := by
  have seen : forall service : Service, service.overt =
      { journal := service.covered.around.journal
        credentials := service.covered.watcher.bind fun watcher => watcher.credentials.map Credentials.shown
        storage := service.covered.storage
        failed := service.covered.failed
        failures := service.covered.failures
        running := service.covered.around.running } := by
    intro service
    rw [shown_covered]
    rfl
  rw [seen, seen, same]

/-- What a poll fetches, and what the delivery of that comes to. -/
structure Yield where
  fetched : Except Failure (Option Content)
  delivered : Option (Except Fault Nat)

/-- What the next poll of the service yields, if there is a watcher. -/
def yield? (sink : Sink) (service : Service) : Option Yield :=
  service.scene?.map fun scene =>
    let fetched := valueOf (Watcher.poll scene)
    { fetched
      delivered := match fetched with
        | .ok (some content) => some (valueOf (sink.deliver { content, place := service.storage }))
        | _ => none }

/-- What the polls of a run yield. -/
def yields (rounds : Nat) (service : Service) : List Yield :=
  match service.sink with
  | some sink => (service.started.polls sink rounds).filterMap (yield? sink)
  | none => []

theorem yield?_eq_of_covered {service other : Service} (same : service.covered = other.covered)
    (sink : Sink) : service.yield? sink = other.yield? sink := by
  have storage : service.storage = other.storage := eq_of_covered (·.storage) (fun _ => rfl) same
  unfold yield?
  rcases scene?_cases same with ⟨absent, otherAbsent⟩ | ⟨scene, after, isScene, isAfter, alike⟩
  · rw [absent, otherAbsent]
    rfl
  · have fetched := (Watcher.poll_decided scene after alike).valueOf_eq
    rw [isScene, isAfter, Option.map_some, Option.map_some, fetched, storage]

/-- Two runs are at the same round all along, since each round leaves services that look the same. -/
theorem polls_yield {service other : Service} (same : service.covered = other.covered) (sink : Sink)
    (rounds : Nat) :
    (service.polls sink rounds).filterMap (yield? sink) =
      (other.polls sink rounds).filterMap (yield? sink) := by
  induction rounds generalizing service other with
  | zero => rfl
  | succ rounds inductionHypothesis =>
      have running : service.around.running = other.around.running :=
        eq_of_covered (·.around.running) (fun _ => rfl) same
      have polled := pollOnce_decided sink service other same
      unfold polls
      rw [running]
      split
      · rw [List.filterMap_cons, List.filterMap_cons, yield?_eq_of_covered same]
        generalize pollOnce sink service = result, pollOnce sink other = otherResult at polled
        cases polled with
        | error failure left => rfl
        | ok goesOn left =>
            cases goesOn with
            | false => rfl
            | true =>
                dsimp only
                rw [inductionHypothesis left]
      · rfl

theorem started_covered (service : Service) : service.started.covered = service.covered.started :=
  noted_covered .loopStarted { service with around.running := true }

theorem yields_eq_of_covered {service other : Service} (same : service.covered = other.covered)
    (rounds : Nat) : service.yields rounds = other.yields rounds := by
  have sinks : service.sink = other.sink := eq_of_covered (·.sink) (fun _ => rfl) same
  have started : service.started.covered = other.started.covered := by
    rw [started_covered, started_covered, same]
  unfold yields
  rw [sinks]
  cases other.sink with
  | none => rfl
  | some sink => exact polls_yield started sink rounds

/-! ## Secrecy -/

/-- Prepare, and run for at most the given number of polls. -/
def performFor (rounds : Nat) : Serving Unit := do
  prepare
  runFor rounds

/-- Services that differ in nothing but their keys cannot be told apart.  They are prepared with the same end,
and run with the same end for as many polls as they may be given: they note and call the same in the same
order, but for the keys among the options of clients, they show the same credentials, and they leave the
same behind.  In the run every poll fetches the same, and every delivery comes to the same. -/
theorem keys_stay_secret {first second : Service} (differ : first.DifferInKeys second) (rounds : Nat) :
    LookSame overt (prepare first) (prepare second) ∧
      LookSame overt (performFor rounds first) (performFor rounds second) ∧
      LookSame overt (perform first) (perform second) ∧
      (stateOf (prepare first)).yields rounds = (stateOf (prepare second)).yields rounds := by
  have same : first.covered = second.covered := differ.covered_eq
  have prepared := prepare_decided first second same
  refine ⟨prepared.weaken overt_of_covered, ?_, ?_, yields_eq_of_covered prepared.stateOf_eq rounds⟩
  · have performed : LookSame covered (performFor rounds first) (performFor rounds second) :=
      prepared.bind fun _ => runFor_decided rounds
    exact performed.weaken overt_of_covered
  · have performed : LookSame covered (perform first) (perform second) :=
      prepared.bind fun _ => run_decided
    exact performed.weaken overt_of_covered

/-- A service with keys from the environment.  Its store has one version to report and then breaks off. -/
def keyed (accessKey secretKey sessionToken : String) : Service where
  settings := { bucket := "b", key := "k", accessKey }
  environment :=
    [("AWS_ACCESS_KEY_ID", accessKey), ("AWS_SECRET_KEY", secretKey), ("AWS_SESSION_TOKEN", sessionToken)]
  around :=
    { remote :=
        { heads :=
            [{ outcome := .ok { tag := some "first" } },
              { outcome := .error (.system .connection "reset") }]
          gets := [{ outcome := .ok { body := some (.ofBytes [104, 105]) } }] }
      stopper := .direct }

/-- Two services that sign with different keys, of which the polls yield the same: content, a failure, and the
end of a run that was stopped when the store fell silent. -/
theorem keys_stay_secret_when_signing :
    (keyed "one" "first secret" "morning").DifferInKeys (keyed "two" "second secret" "evening") ∧
      (stateOf (prepare (keyed "one" "first secret" "morning"))).watcher.map Watcher.clientOptions ≠
        (stateOf (prepare (keyed "two" "second secret" "evening"))).watcher.map Watcher.clientOptions ∧
      LookSame overt (perform (keyed "one" "first secret" "morning"))
        (perform (keyed "two" "second secret" "evening")) ∧
      (stateOf (prepare (keyed "one" "first secret" "morning"))).yields 5 =
        (stateOf (prepare (keyed "two" "second secret" "evening"))).yields 5 ∧
      ((stateOf (prepare (keyed "one" "first secret" "morning"))).yields 5).length = 3 := by
  have differ : (keyed "one" "first secret" "morning").DifferInKeys
      (keyed "two" "second secret" "evening") :=
    { settings := ⟨by decide, by decide, rfl⟩
      environment := by
        unfold EnvFile.Environment.DifferInKeys
        decide
      rest := rfl }
  rcases keys_stay_secret differ 5 with ⟨_, _, performed, yields⟩
  refine ⟨differ, ?_, performed, yields, ?_⟩
  · decide +kernel
  · decide +kernel

end Service
end ObjectWatch
