import ObjectWatch.Proofs.Settings.Acceptance
import ObjectWatch.Proofs.Watcher.Renewal
import Mathlib.Data.List.Nodup

/-!
# Accepted settings are stable and usable

What was accepted once is written out by its fields, and these are accepted again as arguments and give
the same settings.  Every spelling was left behind by the first reading: a number is a number by then, and
a level and a form have their own names, which no change of case touches.  The only check that a field can
still fail is the one of the interval, and accepted settings have passed it.

Arguments come before every other source.  So where all fields are given as arguments, the environment and
its files have no part in the settings any more.

Accepted settings describe a target, and a watcher of this target can be prepared unless it names no bucket
or no key.
-/

namespace ObjectWatch

/-! ## Fields of settings -/

namespace Settings

theorem names_fields (settings : Settings) : settings.fields.map Prod.fst = fieldNames := rfl

theorem level?_settingName (level : Level) : level? level.settingName = .ok level := by
  cases level <;> decide +kernel

theorem form?_settingName (form : LogForm) : form? form.settingName = .ok form := by
  cases form <;> decide +kernel

theorem limit_natCast (n : Nat) : limit n = .ok n := if_neg (Int.not_lt.mpr (Int.natCast_nonneg n))

/-- The fields of settings describe the settings, if the interval passes its check. -/
theorem ofFields_fields {settings : Settings} (positive : ¬ settings.interval ≤ 0.0) :
    ofFields settings.fields = .ok settings := by
  have interval : (Coercion.number (.float settings.interval) >>= positiveInterval) =
      .ok settings.interval := if_neg positive
  have failureLimit : (Coercion.integer (.int settings.failureLimit) >>= limit) =
      .ok settings.failureLimit := limit_natCast settings.failureLimit
  have level : (Coercion.text (.text settings.level.settingName) >>= level?) = .ok settings.level :=
    level?_settingName settings.level
  have form : (Coercion.text (.text settings.form.settingName) >>= form?) = .ok settings.form :=
    form?_settingName settings.form
  unfold ofFields fieldOr
  simp only [fields, List.lookup_cons, String.reduceBEq, interval, failureLimit, level, form]
  rfl

end Settings

/-! ## Arguments before everything else -/

namespace Sources

/-- The name of a field is compared as it is, whether letter case matters or not. -/
theorem compared_fieldName (reading : Reading) {name : String} (isField : name ∈ Settings.fieldNames) :
    reading.compared name = name := by
  unfold Reading.compared
  split
  · rfl
  · revert name
    decide +kernel

variable {sources : Sources}

/-- Where every field is given once as an argument, each argument is found under its name. -/
theorem argument?_of_fields (named : sources.arguments.map Prod.fst = Settings.fieldNames)
    {entry : String × Value} (member : entry ∈ sources.arguments) :
    sources.argument? entry.1 = some entry.2 := by
  have isField : forall {other : String × Value}, other ∈ sources.arguments ->
      sources.reading.compared other.1 = other.1 := fun other => by
    refine compared_fieldName sources.reading ?_
    rw [← named]
    exact List.mem_map_of_mem other
  have distinct : (sources.arguments.map Prod.fst).Nodup := by
    rw [named]
    decide
  unfold argument?
  cases found : sources.arguments.find? fun other => sources.reading.compared other.1 == entry.1 with
  | none =>
      have missed := List.find?_eq_none.mp found entry member
      rw [isField member] at missed
      exact absurd (beq_self_eq_true entry.1) missed
  | some other =>
      have known := List.mem_of_find?_eq_some found
      have same : sources.reading.compared other.1 = entry.1 := by simpa using List.find?_some found
      rw [isField known] at same
      rw [List.inj_on_of_nodup_map distinct known member same]
      rfl

/-- Where every field is given once as an argument, the fields are these arguments. -/
theorem fields_of_arguments (named : sources.arguments.map Prod.fst = Settings.fieldNames) :
    sources.fields = sources.arguments := by
  have values : forall entry, entry ∈ sources.arguments ->
      (sources.value? sources.fileValues entry.1).map (entry.1, ·) = some entry := by
    intro entry member
    unfold value?
    rw [argument?_of_fields named member]
    rfl
  unfold fields
  rw [← named, List.filterMap_map]
  exact (List.filterMap_congr values).trans List.filterMap_some

/-- An environment file that exists is read without a failure, as no argument says anything about it. -/
theorem fileTexts_fields (settings : Settings) (files : List (Path × String)) :
    exists texts, Reading.fileTexts settings.fields files = .ok texts := by
  have names : Reading.fileNames settings.fields = .ok [.text Reading.defaultFile] := rfl
  have encoding : Reading.encoding settings.fields = .ok .utf8 := rfl
  unfold Reading.fileTexts
  rw [names]
  have text : exists text, Reading.fileText settings.fields files (.text Reading.defaultFile) = .ok text := by
    unfold Reading.fileText
    dsimp only
    cases files.lookup (Path.ofText Reading.defaultFile) with
    | none => exact ⟨none, rfl⟩
    | some text =>
        rw [encoding]
        exact ⟨some text, rfl⟩
  rcases text with ⟨text, read⟩
  refine ⟨[text].filterMap id, ?_⟩
  simp only [bind, Except.bind, pure, Except.pure, List.mapM_cons, List.mapM_nil, read]

/-- The fields of settings are no instructions for reading other sources. -/
theorem ofArguments_fields (settings : Settings) (environment : EnvFile.Environment)
    (files : List (Path × String)) :
    exists texts, ofArguments settings.fields environment files =
      .ok { arguments := settings.fields, environment, files := texts } := by
  rcases fileTexts_fields settings files with ⟨texts, read⟩
  refine ⟨texts, ?_⟩
  have reading : Reading.ofArguments settings.fields = .ok {} := rfl
  unfold ofArguments
  rw [reading, read]
  rfl

end Sources

/-! ## The law of accepted settings -/

/-- Accepted settings are a fixed point and can be used.  Their fields, given as arguments, are accepted in
every environment and beside all files, and give the same settings.  They describe a target, in which an empty
access key, secret key or region is none and everything else is as it was.  A watcher of this target finds an
error in the configuration, when it is prepared, exactly if the bucket or the key is empty, and it looks at
the bucket first. -/
theorem accepted_settings_stable {sources : Sources} {settings : Settings}
    (accepted : sources.settings = .ok settings) :
    (forall (environment : EnvFile.Environment) (files : List (Path × String)),
      exists again, Sources.ofArguments settings.fields environment files = .ok again ∧
        again.settings = .ok settings) ∧
    settings.target = .ok
      { bucket := settings.bucket
        key := settings.key
        accessKey := Settings.nonEmpty? settings.accessKey
        secretKey := Settings.nonEmpty? settings.secretKey
        region := Settings.nonEmpty? settings.region
        embeddedCertificates := settings.embeddedCertificates
        interval := some settings.interval } ∧
    forall scene : Scene, settings.target = .ok scene.watcher.target ->
      (Watcher.prepare scene = .error .bucketMissing scene ↔ settings.bucket = "") ∧
        (Watcher.prepare scene = .error .keyMissing scene ↔
          settings.bucket ≠ "" ∧ settings.key = "") ∧
        (scene.FailsAbroad ->
          ((exists failure after, Watcher.prepare scene = .error failure after ∧
              failure.report.watchKind? = some .configuration) ↔
            settings.bucket = "" ∨ settings.key = "")) := by
  have positive := Settings.interval_positive accepted
  have described := Settings.target_of_accepted accepted
  refine ⟨fun environment files => ?_, described, fun scene watched => ?_⟩
  · rcases Sources.ofArguments_fields settings environment files with ⟨texts, again⟩
    refine ⟨_, again, ?_⟩
    unfold Sources.settings
    rw [Sources.fields_of_arguments settings.names_fields]
    exact Settings.ofFields_fields positive
  · have target : scene.watcher.target = settings.described :=
      (Except.ok.inj (described.symm.trans watched)).symm
    have bucket : scene.watcher.target.bucket = settings.bucket := congrArg Target.bucket target
    have key : scene.watcher.target.key = settings.key := congrArg Target.key target
    refine ⟨?_, ?_, fun abroad => ?_⟩
    · rw [prepare_eq_bucketMissing_iff, bucket]
    · rw [prepare_eq_keyMissing_iff, bucket, key]
    · rw [Scene.misconfigured_iff abroad, Target.NamesObject, bucket, key, not_and_or, not_not, not_not]

/-- Settings that are spelled in unusual ways: an interval without an end, a limit beyond 64 bits, and a level
with a dotless letter that becomes an ordinary one in upper case. -/
def unusualSources : Sources where
  arguments :=
    [("s3_bucket", .text "b"), ("log_level", .text "\u0131nfo"),
      ("poll_interval_seconds", .text "Infinity"),
      ("max_consecutive_failures", .text "+99_999_999_999_999_999_999.0")]

/-- They are read once, and what was read is accepted again beside other sources.  Only the key is missing. -/
theorem accepted_settings_stable_unusual :
    exists settings, unusualSources.settings = .ok settings ∧
      settings.failureLimit = 99999999999999999999 ∧ settings.interval.isInf = true ∧
      (exists again,
        Sources.ofArguments settings.fields [("POLL_INTERVAL_SECONDS", "0")] [] = .ok again ∧
          again.settings = .ok settings) ∧
      forall scene : Scene, settings.target = .ok scene.watcher.target ->
        Watcher.prepare scene = .error .keyMissing scene := by
  let settings : Settings :=
    { bucket := "b", interval := 1.0 / 0.0, failureLimit := 99999999999999999999 }
  have accepted : unusualSources.settings = .ok settings := by with_unfolding_all rfl
  rcases accepted_settings_stable accepted with ⟨again, _, usable⟩
  refine ⟨settings, accepted, rfl, by decide +kernel, again _ _, fun scene watched => ?_⟩
  exact (usable scene watched).2.1.mpr ⟨by decide, rfl⟩

end ObjectWatch
