import ObjectWatch.Proofs.Settings.Acceptance

/-!
# Intervals that pass their check

The check of an interval refuses what is not greater than zero by asking whether it is at most zero.  For
numbers this is the same question.  What is no number is neither greater nor at most zero, so it passes, and
it is not taken for the zero that stands for the default either.  An accepted interval is therefore used as
it is, and it is positive exactly if it is a number.
-/

namespace ObjectWatch

/-! ## Numbers and zero -/

namespace Interval

open Float.Model (UnpackedFloat)

variable {x : Float}

theorem unpack_zero : (0.0 : Float).toModel.unpack = .zero .positive := rfl

/-- What is not at most zero is greater than zero or no number. -/
theorem not_le_zero_iff (x : Float) : ¬ x ≤ 0.0 ↔ 0.0 < x ∨ x.isNaN = true := by
  have le : x ≤ 0.0 ↔ x.toModel.unpack.le (0.0 : Float).toModel.unpack = true := decide_eq_true_iff
  have lt : 0.0 < x ↔ (0.0 : Float).toModel.unpack.lt x.toModel.unpack = true := decide_eq_true_iff
  have isNaN : x.isNaN = x.toModel.unpack.isNaN := rfl
  rw [le, lt, isNaN, unpack_zero]
  cases x.toModel.unpack with
  | infinity sign => cases sign <;> decide
  | notANumber => decide
  | zero sign => cases sign <;> decide
  | finite sign mantissa exponent nonzero =>
      cases sign with
      | positive => exact iff_of_true Bool.false_ne_true (.inl rfl)
      | negative =>
          refine iff_of_false (fun passes => passes rfl) ?_
          rintro (less | nothing)
          · cases less
          · cases nothing

/-- What is greater than zero is a number. -/
theorem isNaN_of_positive (positive : 0.0 < x) : x.isNaN = false := by
  have lt : (0.0 : Float).toModel.unpack.lt x.toModel.unpack = true := decide_eq_true_iff.mp positive
  have isNaN : x.isNaN = x.toModel.unpack.isNaN := rfl
  rw [unpack_zero] at lt
  rw [isNaN]
  cases unpacked : x.toModel.unpack with
  | notANumber =>
      rw [unpacked] at lt
      cases lt
  | infinity sign => rfl
  | zero sign => rfl
  | finite sign mantissa exponent positive => rfl

/-- What equals zero is at most zero. -/
theorem le_zero_of_beq (zero : (x == 0.0) = true) : x ≤ 0.0 := by
  have beq : x.toModel.unpack.beq (0.0 : Float).toModel.unpack = true := zero
  have le : x ≤ 0.0 ↔ x.toModel.unpack.le (0.0 : Float).toModel.unpack = true := decide_eq_true_iff
  rw [le]
  unfold UnpackedFloat.beq at beq
  unfold UnpackedFloat.le
  rw [eq_of_beq beq]
  rfl

/-- What is not at most zero is greater than zero exactly if it is a number. -/
theorem positive_iff_of_not_le (passes : ¬ x ≤ 0.0) : 0.0 < x ↔ x.isNaN = false := by
  refine ⟨isNaN_of_positive, fun number => ?_⟩
  rcases (not_le_zero_iff x).mp passes with positive | nothing
  · exact positive
  · cases number.symm.trans nothing

end Interval

/-! ## Targets -/

/-- What is optional was read if it is there. -/
theorem Coercion.some_of_optional {α : Type} {read : Value -> Except Complaint α} {value : Value} {x : α}
    (reads : optional read value = .ok (some x)) : read value = .ok x := by
  have inner : forall {result : Except Complaint α}, result.map some = .ok (some x) -> result = .ok x := by
    intro result mapped
    cases result <;> cases mapped
    rfl
  cases value with
  | null => cases reads
  | _ => exact inner reads

namespace Target

variable {target : Target} {x : Float}

/-- The interval of an accepted target is not at most zero. -/
theorem interval_of_accepted {fields : List (String × Value)} (accepted : ofFields fields = .ok target)
    (given : target.interval = some x) : ¬ x ≤ 0.0 := by
  unfold ofFields at accepted
  simp only [Checked.result_eq_ok_iff, Checked.seq_eq_ok_iff, Checked.map_eq_ok_iff] at accepted
  rcases accepted with ⟨_, interval, ⟨_, certificates, ⟨_, region, ⟨_, secret, ⟨_, access, ⟨_, key,
    ⟨bucket, _, rfl⟩, _, rfl⟩, _, rfl⟩, _, rfl⟩, _, rfl⟩, _, rfl⟩, checked, rfl⟩
  have same : interval = some x := given
  subst same
  rcases Checked.cases_of_fieldOr checked with impossible | ⟨value, reads⟩
  · cases impossible
  · exact Settings.positive_of_number (Coercion.some_of_optional reads)

/-- An interval that is not at most zero is used as it is. -/
theorem intervalInUse_of_some (given : target.interval = some x) (passes : ¬ x ≤ 0.0) :
    target.intervalInUse = x := by
  unfold intervalInUse
  rw [given]
  exact if_neg fun zero => passes (Interval.le_zero_of_beq zero)

/-- Filling in the defaults does not change the interval in use. -/
theorem completed_intervalInUse (target : Target) :
    target.completed.intervalInUse = target.intervalInUse := by
  have unequal : (defaultInterval == 0.0) = false :=
    Bool.eq_false_iff.mpr fun zero => Settings.defaultInterval_positive (Interval.le_zero_of_beq zero)
  have completed : target.completed.intervalInUse =
      if target.intervalInUse == 0.0 then defaultInterval else target.intervalInUse := rfl
  rw [completed]
  unfold intervalInUse
  cases target.interval with
  | none => exact if_neg (Bool.eq_false_iff.mp unequal)
  | some x =>
      cases zero : x == 0.0 with
      | true => simp only [zero, if_true, ite_self]
      | false => simp only [zero, Bool.false_eq_true, if_false]

/-- The target names an interval that is no number. -/
def HasNaN (target : Target) : Prop := exists x, target.interval = some x ∧ x.isNaN = true

/-- The interval in use of an accepted target is positive unless one was given that is no number. -/
theorem intervalInUse_positive_iff {fields : List (String × Value)}
    (accepted : ofFields fields = .ok target) : 0.0 < target.intervalInUse ↔ ¬ target.HasNaN := by
  cases given : target.interval with
  | none =>
      have inUse : target.intervalInUse = defaultInterval := by
        unfold intervalInUse
        rw [given]
      rw [inUse]
      refine iff_of_true (by decide +kernel) ?_
      rintro ⟨x, impossible, _⟩
      cases given.symm.trans impossible
  | some x =>
      have passes := interval_of_accepted accepted given
      rw [intervalInUse_of_some given passes, Interval.positive_iff_of_not_le passes]
      constructor
      · rintro number ⟨other, same, nothing⟩
        cases given.symm.trans same
        cases number.symm.trans nothing
      · intro number
        exact Bool.eq_false_iff.mpr fun nothing => number ⟨x, given, nothing⟩

end Target

/-! ## Settings -/

namespace Settings

/-- The interval of accepted settings is positive exactly if it is a number. -/
theorem interval_positive_iff {sources : Sources} {settings : Settings}
    (accepted : sources.settings = .ok settings) :
    0.0 < settings.interval ↔ settings.interval.isNaN = false :=
  Interval.positive_iff_of_not_le (interval_positive accepted)

/-- The interval of accepted settings is the one that the target uses. -/
theorem described_intervalInUse {sources : Sources} {settings : Settings}
    (accepted : sources.settings = .ok settings) :
    settings.described.intervalInUse = settings.interval :=
  Target.intervalInUse_of_some rfl (interval_positive accepted)

end Settings
end ObjectWatch
