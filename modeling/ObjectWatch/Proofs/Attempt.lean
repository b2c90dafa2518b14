import ObjectWatch.Body

/-!
# How a computation ends

A computation on a state ends with a value or with an error, and keeps a state either way.  The
equations here run the computations of the library one step at a time.  `Ends` states what holds in
each of the two cases; its rules follow the shape of a computation, so what a longer computation
guarantees is put together from what its parts guarantee.

Nothing is assumed about the two cases: an error is an end like any other, and a statement that a
computation returns a value says so by excluding the error.  `Leaves` is about both cases alike: it names
a part of the state that a computation does not touch.  `Heeds` also says which errors that part allows.
`DecidedBy` compares two runs of one computation: a part of the state from which everything follows that
matters about the end.
-/

namespace ObjectWatch

variable {ε σ α β γ : Type}

/-! ## Running a computation -/

theorem pure_apply (value : α) (state : σ) :
    (pure value : EStateM ε σ α) state = .ok value state := rfl

theorem throw_apply (error : ε) (state : σ) :
    (throw error : EStateM ε σ α) state = .error error state := rfl

theorem get_apply (state : σ) : (get : EStateM ε σ σ) state = .ok state state := rfl

theorem modify_apply (change : σ -> σ) (state : σ) :
    (modify change : EStateM ε σ PUnit) state = .ok ⟨⟩ (change state) := rfl

theorem bind_apply (act : EStateM ε σ α) (next : α -> EStateM ε σ β) (state : σ) :
    (act >>= next) state =
      match act state with
      | .ok value state => next value state
      | .error error state => .error error state := rfl

theorem seqRight_apply (act : EStateM ε σ α) (next : EStateM ε σ β) (state : σ) :
    (act *> next) state =
      match act state with
      | .ok _ state => next state
      | .error error state => .error error state := rfl

theorem bind_of_ok {act : EStateM ε σ α} {state after : σ} {value : α}
    (ended : act state = .ok value after) (next : α -> EStateM ε σ β) :
    (act >>= next) state = next value after := by
  rw [bind_apply, ended]

theorem bind_of_error {act : EStateM ε σ α} {state after : σ} {error : ε}
    (ended : act state = .error error after) (next : α -> EStateM ε σ β) :
    (act >>= next) state = .error error after := by
  rw [bind_apply, ended]

/-- The state that a computation leaves behind, whatever its end. -/
def stateOf : EStateM.Result ε σ α -> σ
  | .ok _ state => state
  | .error _ state => state

/-- The value or the error that a computation ends with, whatever state it leaves. -/
def valueOf : EStateM.Result ε σ α -> Except ε α
  | .ok value _ => .ok value
  | .error error _ => .error error

/-! ## What holds at the end -/

/-- An end is as promised: a value with its state is `good`, an error with its state is `bad`. -/
def Ends (result : EStateM.Result ε σ α) (good : α -> σ -> Prop) (bad : ε -> σ -> Prop) : Prop :=
  match result with
  | .ok value state => good value state
  | .error error state => bad error state

namespace Ends

variable {good weaker : α -> σ -> Prop} {bad worse : ε -> σ -> Prop}

/-- A computation in sequence: what the second part needs is what the first part has to promise. -/
theorem bind {act : EStateM ε σ α} {next : α -> EStateM ε σ β} {state : σ}
    {final : β -> σ -> Prop}
    (first : Ends (act state) (fun value after => Ends (next value after) final bad) bad) :
    Ends ((act >>= next) state) final bad := by
  rw [bind_apply]
  cases ended : act state with
  | ok value after => rw [ended] at first; exact first
  | error error after => rw [ended] at first; exact first

/-- Promise less. -/
theorem mono {result : EStateM.Result ε σ α} (ends : Ends result good bad)
    (value : forall value state, good value state -> weaker value state)
    (error : forall error state, bad error state -> worse error state) :
    Ends result weaker worse := by
  cases result with
  | ok result state => exact value result state ends
  | error fault state => exact error fault state ends

/-- Promise two things. -/
theorem and {result : EStateM.Result ε σ α} (ends : Ends result good bad)
    (also : Ends result weaker worse) :
    Ends result (fun value state => good value state ∧ weaker value state)
      (fun error state => bad error state ∧ worse error state) := by
  cases result with
  | ok value state => exact ⟨ends, also⟩
  | error error state => exact ⟨ends, also⟩

/-- An end is what it is. -/
theorem of_self (result : EStateM.Result ε σ α) :
    Ends result (fun value state => result = .ok value state)
      (fun error state => result = .error error state) := by
  cases result <;> exact rfl

theorem of_ok {result : EStateM.Result ε σ α} {value : α} {state : σ}
    (ends : Ends result good bad) (ended : result = .ok value state) : good value state := by
  subst ended
  exact ends

theorem of_error {result : EStateM.Result ε σ α} {error : ε} {state : σ}
    (ends : Ends result good bad) (ended : result = .error error state) : bad error state := by
  subst ended
  exact ends

end Ends

/-! ## What stays -/

/-- What a view shows of the state is the same after a computation, however it ended. -/
def Leaves (view : σ -> γ) (act : EStateM ε σ α) : Prop :=
  forall state, view (stateOf (act state)) = view state

namespace Leaves

variable {view : σ -> γ} {act : EStateM ε σ α}

protected theorem pure (value : α) : Leaves view (pure value : EStateM ε σ α) := fun _ => rfl

protected theorem throw (error : ε) : Leaves view (throw error : EStateM ε σ α) := fun _ => rfl

theorem bind {next : α -> EStateM ε σ β} (first : Leaves view act)
    (second : forall value, Leaves view (next value)) : Leaves view (act >>= next) := by
  intro state
  have before := first state
  rw [bind_apply]
  cases ended : act state with
  | ok value after =>
      rw [ended] at before
      exact (second value after).trans before
  | error error after =>
      rw [ended] at before
      exact before

/-- A computation that looks at the state first. -/
theorem of_get {next : σ -> EStateM ε σ β} (leaves : forall state, Leaves view (next state)) :
    Leaves view (get >>= next) := fun state => leaves state state

theorem ite {condition : Prop} [Decidable condition] {other : EStateM ε σ α}
    (first : Leaves view act) (second : Leaves view other) :
    Leaves view (if condition then act else other) := by
  split
  · exact first
  · exact second

theorem of_ok (leaves : Leaves view act) {state after : σ} {value : α}
    (ended : act state = .ok value after) : view after = view state := by
  have same := leaves state
  rw [ended] at same
  exact same

theorem of_error (leaves : Leaves view act) {state after : σ} {error : ε}
    (ended : act state = .error error after) : view after = view state := by
  have same := leaves state
  rw [ended] at same
  exact same

end Leaves

/-! ## What stays and what may go wrong -/

/-- What a view shows of the state is the same after a computation, and an error is one that it allows. -/
def Heeds (view : σ -> γ) (allows : γ -> ε -> Prop) (act : EStateM ε σ α) : Prop :=
  forall state, Ends (act state) (fun _ after => view after = view state)
    (fun error after => view after = view state ∧ allows (view state) error)

namespace Heeds

variable {view : σ -> γ} {allows : γ -> ε -> Prop} {act : EStateM ε σ α}

theorem leaves (heeds : Heeds view allows act) : Leaves view act := by
  intro state
  have ends := heeds state
  cases ended : act state with
  | ok value after => exact ends.of_ok ended
  | error error after => exact (ends.of_error ended).1

protected theorem pure (value : α) : Heeds view allows (pure value : EStateM ε σ α) := fun _ => rfl

protected theorem throw {error : ε} (allowed : forall shown, allows shown error) :
    Heeds view allows (throw error : EStateM ε σ α) := fun state => ⟨rfl, allowed (view state)⟩

theorem of_modify {change : σ -> σ} (same : forall state, view (change state) = view state) :
    Heeds view allows (modify change : EStateM ε σ PUnit) := same

theorem bind {next : α -> EStateM ε σ β} (first : Heeds view allows act)
    (second : forall value, Heeds view allows (next value)) : Heeds view allows (act >>= next) := by
  intro state
  refine Ends.bind ((first state).mono ?_ fun _ _ allowed => allowed)
  intro value middle same
  have later := second value middle
  rw [same] at later
  exact later

/-- A computation that looks at the state first. -/
theorem of_get {next : σ -> EStateM ε σ β} (heeds : forall state, Heeds view allows (next state)) :
    Heeds view allows (get >>= next) := fun state => heeds state state

theorem ite {condition : Prop} [Decidable condition] {other : EStateM ε σ α}
    (first : Heeds view allows act) (second : Heeds view allows other) :
    Heeds view allows (if condition then act else other) := by
  split
  · exact first
  · exact second

/-- Allow more. -/
theorem weaken {permits : γ -> ε -> Prop} (heeds : Heeds view allows act)
    (permitted : forall {shown error}, allows shown error -> permits shown error) :
    Heeds view permits act := fun state =>
  (heeds state).mono (fun _ _ same => same) fun _ _ failed => ⟨failed.1, permitted failed.2⟩

theorem of_error (heeds : Heeds view allows act) {state after : σ} {error : ε}
    (ended : act state = .error error after) : allows (view state) error :=
  ((heeds state).of_error ended).2

end Heeds

/-! ## What decides -/

/-- Two ends look the same: the value or the error is the same, and a view shows the same of the states. -/
inductive LookSame (view : σ -> γ) : EStateM.Result ε σ α -> EStateM.Result ε σ α -> Prop where
  | ok (value : α) {state other : σ} (same : view state = view other) :
      LookSame view (.ok value state) (.ok value other)
  | error (error : ε) {state other : σ} (same : view state = view other) :
      LookSame view (.error error state) (.error error other)

/-- How a computation ends, and what a view shows then, follows from what the view showed before. -/
def DecidedBy (view : σ -> γ) (act : EStateM ε σ α) : Prop :=
  forall state other, view state = view other -> LookSame view (act state) (act other)

namespace LookSame

variable {view : σ -> γ} {result other : EStateM.Result ε σ α}

theorem stateOf_eq (looks : LookSame view result other) : view (stateOf result) = view (stateOf other) := by
  cases looks with
  | ok value same => exact same
  | error error same => exact same

theorem valueOf_eq (looks : LookSame view result other) : valueOf result = valueOf other := by
  cases looks <;> rfl

/-- What looks the same does so under a view that shows less. -/
theorem weaken {δ : Type} {coarser : σ -> δ} (looks : LookSame view result other)
    (told : forall {state other}, view state = view other -> coarser state = coarser other) :
    LookSame coarser result other := by
  cases looks with
  | ok value same => exact .ok value (told same)
  | error error same => exact .error error (told same)

/-- Two runs that look the same after their first part, and whose second part goes by what is seen then. -/
theorem bind {act : EStateM ε σ α} {next : α -> EStateM ε σ β} {state other : σ}
    (first : LookSame view (act state) (act other))
    (second : forall value, DecidedBy view (next value)) :
    LookSame view ((act >>= next) state) ((act >>= next) other) := by
  rw [bind_apply, bind_apply]
  generalize act state = result, act other = otherResult at first
  cases first with
  | ok value same => exact second value _ _ same
  | error error same => exact .error error same

end LookSame

namespace DecidedBy

variable {view : σ -> γ} {act : EStateM ε σ α}

protected theorem pure (value : α) : DecidedBy view (pure value : EStateM ε σ α) :=
  fun _ _ same => .ok value same

protected theorem throw (error : ε) : DecidedBy view (throw error : EStateM ε σ α) :=
  fun _ _ same => .error error same

/-- A change that can be told from the view. -/
theorem of_modify {change : σ -> σ} (shown : γ -> γ)
    (commutes : forall state, view (change state) = shown (view state)) :
    DecidedBy view (modify change : EStateM ε σ PUnit) := by
  intro state other same
  apply LookSame.ok
  rw [commutes, commutes, same]

theorem bind {next : α -> EStateM ε σ β} (first : DecidedBy view act)
    (second : forall value, DecidedBy view (next value)) : DecidedBy view (act >>= next) := by
  intro state other same
  exact (first state other same).bind second

/-- A computation that looks at nothing but the view before it goes on. -/
theorem of_get {next : σ -> EStateM ε σ β} (decided : forall state, DecidedBy view (next state))
    (seen : forall state other, view state = view other -> next state = next other) :
    DecidedBy view (get >>= next) := by
  intro state other same
  rw [bind_apply, bind_apply, get_apply, get_apply]
  dsimp only
  rw [seen state other same]
  exact decided other state other same

theorem ite {condition : Prop} [Decidable condition] {other : EStateM ε σ α}
    (first : DecidedBy view act) (second : DecidedBy view other) :
    DecidedBy view (if condition then act else other) := by
  split
  · exact first
  · exact second

end DecidedBy
end ObjectWatch
