import ObjectWatch.Settings.Sources

/-!
# Accepted settings describe a target

Settings and the target that they describe are checked one after the other, and both checks look at the
interval.  Settings that were accepted have a positive interval, whether it was given or is the default,
and nothing else about them can be wrong in the eyes of the second check.  So the second check never
fails, and bucket and key come through it as they are, missing or not.
-/

namespace ObjectWatch

namespace Checked

variable {α β : Type}

theorem seq_eq_ok_iff {function : Checked (α -> β)} {part : Checked α} {whole : β} :
    function <*> part = .ok whole ↔
      exists f value, function = .ok f ∧ part = .ok value ∧ whole = f value := by
  have applied : function <*> part = apply function part := rfl
  rw [applied]
  constructor
  · intro accepted
    cases function with
    | problems list => cases part <;> cases accepted
    | ok f =>
        cases part with
        | problems list => cases accepted
        | ok value =>
            cases accepted
            exact ⟨f, value, rfl, rfl, rfl⟩
  · rintro ⟨f, value, rfl, rfl, rfl⟩
    rfl

theorem map_eq_ok_iff {f : α -> β} {part : Checked α} {whole : β} :
    f <$> part = .ok whole ↔ exists value, part = .ok value ∧ whole = f value := by
  have mapped : f <$> part = map f part := rfl
  rw [mapped]
  constructor
  · intro accepted
    cases part with
    | problems list => cases accepted
    | ok value =>
        cases accepted
        exact ⟨value, rfl, rfl⟩
  · rintro ⟨value, rfl, rfl⟩
    rfl

theorem result_eq_ok_iff {subject : String} {whole : Checked α} {value : α} :
    whole.result subject = .ok value ↔ whole = .ok value := by
  cases whole with
  | ok other => exact ⟨fun same => congrArg ok (Except.ok.inj same), fun same => by cases same; rfl⟩
  | problems list => exact iff_of_false nofun nofun

/-- A field is its default, or it was read from a value. -/
theorem cases_of_fieldOr {fields : List (String × Value)} {name : String} {default value : α}
    {read : Value -> Except Complaint α} (accepted : fieldOr fields name default read = .ok value) :
    value = default ∨ exists given, read given = .ok value := by
  unfold fieldOr at accepted
  cases found : fields.lookup name with
  | none =>
      rw [found] at accepted
      cases accepted
      exact .inl rfl
  | some given =>
      rw [found] at accepted
      dsimp only at accepted
      cases reads : read given with
      | ok other =>
          rw [reads] at accepted
          cases accepted
          exact .inr ⟨given, reads⟩
      | error complaint =>
          rw [reads] at accepted
          cases accepted

end Checked

namespace Settings

/-- The default interval is positive. -/
theorem defaultInterval_positive : ¬ defaultInterval ≤ 0.0 := by decide +kernel

/-- An interval that passes its check is positive, and it passes as it is. -/
theorem positive_of_positiveInterval {x y : Float} (accepted : positiveInterval x = .ok y) :
    ¬ y ≤ 0.0 := by
  unfold positiveInterval at accepted
  split at accepted
  · cases accepted
  · rename_i positive
    cases accepted
    exact positive

/-- An interval that was read from a value and passes its check is positive. -/
theorem positive_of_number {value : Value} {x : Float}
    (accepted : Coercion.number value >>= positiveInterval = .ok x) : ¬ x ≤ 0.0 := by
  cases number : Coercion.number value with
  | error complaint =>
      rw [number] at accepted
      cases accepted
  | ok given =>
      rw [number] at accepted
      exact positive_of_positiveInterval accepted

/-- Accepted settings have a positive interval. -/
theorem interval_positive {fields : List (String × Value)} {settings : Settings}
    (accepted : ofFields fields = .ok settings) : ¬ settings.interval ≤ 0.0 := by
  unfold ofFields at accepted
  simp only [Checked.result_eq_ok_iff, Checked.seq_eq_ok_iff, Checked.map_eq_ok_iff] at accepted
  rcases accepted with ⟨_, form, ⟨_, level, ⟨_, output, ⟨_, limit, ⟨_, interval, ⟨_, certificates,
    ⟨_, region, ⟨_, secret, ⟨_, access, ⟨_, key, ⟨bucket, _, rfl⟩, _, rfl⟩, _, rfl⟩, _, rfl⟩, _, rfl⟩,
    _, rfl⟩, checked, rfl⟩, _, rfl⟩, _, rfl⟩, _, rfl⟩, _, rfl⟩
  rcases Checked.cases_of_fieldOr checked with rfl | ⟨given, reads⟩
  · exact defaultInterval_positive
  · exact positive_of_number reads

/-- The target with the bucket, the key and whatever else the settings say about it. -/
def described (settings : Settings) : Target where
  bucket := settings.bucket
  key := settings.key
  accessKey := nonEmpty? settings.accessKey
  secretKey := nonEmpty? settings.secretKey
  region := nonEmpty? settings.region
  embeddedCertificates := settings.embeddedCertificates
  interval := some settings.interval

theorem optional_text (s : Option String) :
    Coercion.optional Coercion.text (.ofText? s) = .ok s := by
  cases s <;> rfl

/-- The target of settings passes its check if the interval does. -/
theorem target_eq_check (settings : Settings) :
    settings.target =
      match positiveInterval settings.interval with
      | .ok x => .ok { settings.described with interval := some x }
      | .error complaint => .error ⟨Target.subject, [⟨"poll_interval_seconds", complaint⟩]⟩ := by
  have accessKey := optional_text (nonEmpty? settings.accessKey)
  have secretKey := optional_text (nonEmpty? settings.secretKey)
  have region := optional_text (nonEmpty? settings.region)
  have interval : Coercion.optional (fun value => Coercion.number value >>= positiveInterval)
      (.float settings.interval) = (positiveInterval settings.interval).map some := rfl
  unfold target Target.ofFields fieldOr
  simp only [targetFields, List.lookup_cons, String.reduceBEq, accessKey, secretKey, region, interval]
  cases positiveInterval settings.interval with
  | ok x => rfl
  | error complaint => rfl

/-- The target of settings with a positive interval passes its check. -/
theorem target_eq {settings : Settings} (positive : ¬ settings.interval ≤ 0.0) :
    settings.target = .ok settings.described := by
  have accepted : positiveInterval settings.interval = .ok settings.interval := if_neg positive
  rw [target_eq_check, accepted]
  rfl

/-- Accepted settings describe a target. -/
theorem target_of_accepted {sources : Sources} {settings : Settings}
    (accepted : sources.settings = .ok settings) : settings.target = .ok settings.described :=
  target_eq (interval_positive accepted)

end Settings
end ObjectWatch
