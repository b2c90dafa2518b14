import ObjectWatch.Store.Client

/-!
# Credentials come whole

A pair of keys is held by the target or by the environment, or there is none.  `Sourced` says which
credentials belong to each of these cases, in terms of what is held and not of how it is looked up, and
`resolve_eq_iff` says that resolution gives these credentials and no others.  So two sources never mix,
half a pair counts for nothing, and a client signs with one whole source or not at all.

What is known of the order holds for any resolvers.  A resolver may do other things besides answering, so
it is also said which resolvers are asked: none after the first that answers.
-/

namespace ObjectWatch

open EnvFile (Environment)

/-! ## Pairs of keys -/

/-- A target holds a pair of keys. -/
structure Target.HoldsKeys (target : Target) (accessKey secretKey : String) : Prop where
  access : target.accessKey = some accessKey
  accessFilled : accessKey ≠ ""
  secret : target.secretKey = some secretKey
  secretFilled : secretKey ≠ ""

/-- A target holds no pair of keys.  It may hold half of one. -/
def Target.IsKeyless (target : Target) : Prop :=
  forall accessKey secretKey, ¬ target.HoldsKeys accessKey secretKey

namespace EnvFile.Environment

/-- A variable holds a value.  The empty text is none. -/
def Holds (known : Environment) (name value : String) : Prop :=
  known.lookup name = some value ∧ value ≠ ""

/-- The first of the named variables that holds anything holds the value. -/
def FirstHolds (known : Environment) (names : List String) (value : String) : Prop :=
  exists before name after, names = before ++ name :: after ∧ known.Holds name value ∧
    forall other, other ∈ before -> forall held, ¬ known.Holds other held

/-- An environment holds a pair of keys, each under the first of its names that holds anything. -/
structure HoldsKeys (known : Environment) (accessKey secretKey : String) : Prop where
  access : known.FirstHolds Credentials.accessKeyNames accessKey
  secret : known.FirstHolds Credentials.secretKeyNames secretKey

/-- What is held under names is not empty. -/
theorem FirstHolds.filled {known : Environment} {names : List String} {value : String}
    (held : known.FirstHolds names value) : value ≠ "" := by
  rcases held with ⟨_, _, _, _, holds, _⟩
  exact holds.2

end EnvFile.Environment

namespace Credentials

variable {target : Target} {known : Environment}

theorem filled?_eq_some_iff {text : Option String} {value : String} :
    filled? text = some value ↔ text = some value ∧ value ≠ "" := by
  cases text with
  | none => exact iff_of_false nofun nofun
  | some s =>
      by_cases empty : s = ""
      · rw [show filled? (some s) = none from if_pos empty]
        refine iff_of_false nofun ?_
        rintro ⟨same, filled⟩
        exact filled ((Option.some.inj same).symm.trans empty)
      · rw [show filled? (some s) = some s from if_neg empty]
        refine ⟨fun same => ⟨same, ?_⟩, fun held => held.1⟩
        rw [← Option.some.inj same]
        exact empty

theorem filled?_lookup_eq_none_iff {name : String} :
    filled? (known.lookup name) = none ↔ forall value, ¬ known.Holds name value := by
  rw [Option.eq_none_iff_forall_ne_some]
  exact forall_congr' fun value => not_congr filled?_eq_some_iff

theorem firstFilled?_eq_some_iff {names : List String} {value : String} :
    firstFilled? known names = some value ↔ known.FirstHolds names value := by
  unfold firstFilled? EnvFile.Environment.FirstHolds
  simp only [List.findSome?_eq_some_iff, filled?_lookup_eq_none_iff, filled?_eq_some_iff]
  rfl

end Credentials

/-! ## What the sources answer -/

namespace Resolver

variable {target : Target} {known : Environment} {credentials : Credentials}

theorem explicit_eq_some_iff :
    explicit target known = some credentials ↔ exists accessKey secretKey,
      target.HoldsKeys accessKey secretKey ∧
        credentials =
          { accessKey := some accessKey, secretKey := some secretKey, source := "explicit" } := by
  constructor
  · intro answers
    unfold explicit at answers
    split at answers
    · rename_i accessKey secretKey access secret
      rcases Credentials.filled?_eq_some_iff.mp access with ⟨access, accessFilled⟩
      rcases Credentials.filled?_eq_some_iff.mp secret with ⟨secret, secretFilled⟩
      cases answers
      exact ⟨accessKey, secretKey, ⟨access, accessFilled, secret, secretFilled⟩, rfl⟩
    · cases answers
  · rintro ⟨accessKey, secretKey, held, rfl⟩
    have access := Credentials.filled?_eq_some_iff.mpr ⟨held.access, held.accessFilled⟩
    have secret := Credentials.filled?_eq_some_iff.mpr ⟨held.secret, held.secretFilled⟩
    unfold explicit
    rw [access, secret]

/-- The target is asked in vain if it holds no pair of keys. -/
theorem explicit_eq_none_iff : explicit target known = none ↔ target.IsKeyless := by
  rw [Option.eq_none_iff_forall_ne_some]
  constructor
  · intro silent accessKey secretKey held
    exact silent _ (explicit_eq_some_iff.mpr ⟨accessKey, secretKey, held, rfl⟩)
  · intro keyless credentials answers
    rcases explicit_eq_some_iff.mp answers with ⟨accessKey, secretKey, held, _⟩
    exact keyless accessKey secretKey held

theorem environment_eq_some_iff :
    environment target known = some credentials ↔ exists accessKey secretKey,
      known.HoldsKeys accessKey secretKey ∧
        credentials =
          { accessKey := some accessKey
            secretKey := some secretKey
            sessionToken := Credentials.filled? (known.lookup Credentials.sessionTokenName)
            source := "environment" } := by
  constructor
  · intro answers
    unfold environment at answers
    split at answers
    · rename_i accessKey secretKey access secret
      have access := Credentials.firstFilled?_eq_some_iff.mp access
      have secret := Credentials.firstFilled?_eq_some_iff.mp secret
      cases answers
      exact ⟨accessKey, secretKey, ⟨access, secret⟩, rfl⟩
    · cases answers
  · rintro ⟨accessKey, secretKey, held, rfl⟩
    have access := Credentials.firstFilled?_eq_some_iff.mpr held.access
    have secret := Credentials.firstFilled?_eq_some_iff.mpr held.secret
    unfold environment
    rw [access, secret]

/-- The environment is asked in vain if it holds no pair of keys. -/
theorem environment_eq_none_iff :
    environment target known = none ↔ forall accessKey secretKey, ¬ known.HoldsKeys accessKey secretKey := by
  rw [Option.eq_none_iff_forall_ne_some]
  constructor
  · intro silent accessKey secretKey held
    exact silent _ (environment_eq_some_iff.mpr ⟨accessKey, secretKey, held, rfl⟩)
  · intro holdsNone credentials answers
    rcases environment_eq_some_iff.mp answers with ⟨accessKey, secretKey, held, _⟩
    exact holdsNone accessKey secretKey held

end Resolver

/-! ## The source of credentials -/

namespace Credentials

variable {target : Target} {known : Environment} {credentials : Credentials}

/-- The credentials that belong to a target and an environment. -/
inductive Sourced (target : Target) (known : Environment) : Credentials -> Prop where
  /-- The target holds a pair of keys. -/
  | explicit {accessKey secretKey : String} (held : target.HoldsKeys accessKey secretKey) :
      Sourced target known
        { accessKey := some accessKey, secretKey := some secretKey, source := "explicit" }
  /-- The target holds none and the environment does, perhaps with a session token beside it. -/
  | environment {accessKey secretKey : String} {sessionToken : Option String}
      (keyless : target.IsKeyless) (held : known.HoldsKeys accessKey secretKey)
      (token : forall value, sessionToken = some value ↔ known.Holds sessionTokenName value) :
      Sourced target known
        { accessKey := some accessKey
          secretKey := some secretKey
          sessionToken
          source := "environment" }
  /-- Neither of them holds a pair of keys. -/
  | anonymous (keyless : target.IsKeyless)
      (unknown : forall accessKey secretKey, ¬ known.HoldsKeys accessKey secretKey) :
      Sourced target known {}

/-- Resolution asks the target, then the environment, and then it is anonymous. -/
theorem resolve_eq (target : Target) (known : Environment) :
    resolve target known =
      match Resolver.explicit target known with
      | some credentials => credentials
      | none =>
          match Resolver.environment target known with
          | some credentials => credentials
          | none => {} := by
  unfold resolve Resolver.standard
  rw [resolveBy_cons, resolveBy_cons, resolveBy_cons]
  rfl

/-- The credentials that belong to a target and an environment are those that resolution gives. -/
theorem resolve_eq_iff : resolve target known = credentials ↔ Sourced target known credentials := by
  rw [resolve_eq]
  constructor
  · intro resolved
    cases explicit : Resolver.explicit target known with
    | some found =>
        rcases Resolver.explicit_eq_some_iff.mp explicit with ⟨accessKey, secretKey, held, same⟩
        rw [explicit] at resolved
        rw [← resolved, same]
        exact .explicit held
    | none =>
        have keyless := Resolver.explicit_eq_none_iff.mp explicit
        cases environment : Resolver.environment target known with
        | some found =>
            rcases Resolver.environment_eq_some_iff.mp environment with ⟨accessKey, secretKey, held, same⟩
            rw [explicit, environment] at resolved
            rw [← resolved, same]
            exact .environment keyless held fun value => filled?_eq_some_iff
        | none =>
            rw [explicit, environment] at resolved
            rw [← resolved]
            exact .anonymous keyless (Resolver.environment_eq_none_iff.mp environment)
  · intro sourced
    cases sourced with
    | explicit held =>
        rw [Resolver.explicit_eq_some_iff.mpr ⟨_, _, held, rfl⟩]
    | @environment accessKey secretKey sessionToken keyless held token =>
        have same : filled? (known.lookup sessionTokenName) = sessionToken := by
          refine Option.ext fun value => ?_
          rw [token value]
          exact filled?_eq_some_iff
        rw [Resolver.explicit_eq_none_iff.mpr keyless,
          Resolver.environment_eq_some_iff.mpr ⟨_, _, held, rfl⟩, same]
    | anonymous keyless unknown =>
        rw [Resolver.explicit_eq_none_iff.mpr keyless, Resolver.environment_eq_none_iff.mpr unknown]

theorem sourced_resolve (target : Target) (known : Environment) :
    Sourced target known (resolve target known) := resolve_eq_iff.mp rfl

/-- Where the target holds a pair of keys, the environment has no part in the credentials. -/
theorem resolve_of_keys {accessKey secretKey : String} (held : target.HoldsKeys accessKey secretKey)
    (other : Environment) : resolve target other = resolve target known :=
  (resolve_eq_iff.mpr (.explicit held)).trans (resolve_eq_iff.mpr (.explicit held)).symm

/-- Half a pair of keys in the target has no part in the credentials. -/
theorem resolve_of_keyless {other : Target} (keyless : target.IsKeyless) (alsoKeyless : other.IsKeyless) :
    resolve other known = resolve target known := by
  rw [resolve_eq, resolve_eq, Resolver.explicit_eq_none_iff.mpr keyless,
    Resolver.explicit_eq_none_iff.mpr alsoKeyless]
  rfl

/-- Credentials without keys, or with both of them. -/
inductive IsWhole : Credentials -> Prop where
  | unsigned {source : String} : IsWhole { source }
  | signed {accessKey secretKey source : String} {sessionToken : Option String}
      (accessFilled : accessKey ≠ "") (secretFilled : secretKey ≠ "") :
      IsWhole { accessKey := some accessKey, secretKey := some secretKey, sessionToken, source }

/-- Credentials from one source are whole. -/
theorem Sourced.isWhole (sourced : Sourced target known credentials) : credentials.IsWhole := by
  cases sourced with
  | explicit held => exact .signed held.accessFilled held.secretFilled
  | environment keyless held token => exact .signed held.access.filled held.secret.filled
  | anonymous keyless unknown => exact .unsigned

end Credentials

/-! ## The client -/

/-- How a client signs belongs to whole credentials: all three parts of them, or nothing. -/
inductive Signing.Fits : Credentials -> Signing -> Prop where
  | unsigned {source : String} : Fits { source } .unsigned
  | signed {accessKey secretKey source : String} {sessionToken : Option String}
      (accessFilled : accessKey ≠ "") (secretFilled : secretKey ≠ "") :
      Fits { accessKey := some accessKey, secretKey := some secretKey, sessionToken, source }
        (.keys accessKey (some secretKey) sessionToken)

theorem ClientOptions.signing_fits {credentials : Credentials} (whole : credentials.IsWhole)
    (target : Target) : Signing.Fits credentials (ofTarget target credentials).signing := by
  cases whole with
  | unsigned => exact .unsigned
  | signed accessFilled secretFilled => exact .signed accessFilled secretFilled

/-! ## Any resolvers -/

namespace Credentials

/-- Ask resolvers one after another until one answers, and note each of them when it is asked. -/
def resolveNoting (resolvers : List Resolver) (target : Target) (known : Environment) :
    StateM (List Resolver) Credentials := do
  let answer <- resolvers.findSomeM? fun resolver => do
    modify (· ++ [resolver])
    return resolver target known
  return answer.getD {}

/-- The resolvers that are asked, in order. -/
def asked (resolvers : List Resolver) (target : Target) (known : Environment) : List Resolver :=
  ((resolveNoting resolvers target known).run []).2

theorem resolveNoting_cons (resolver : Resolver) (resolvers : List Resolver) (target : Target)
    (known : Environment) (noted : List Resolver) :
    (resolveNoting (resolver :: resolvers) target known).run noted =
      match resolver target known with
      | some credentials => (credentials, noted ++ [resolver])
      | none => (resolveNoting resolvers target known).run (noted ++ [resolver]) := by
  unfold resolveNoting
  rw [List.findSomeM?]
  simp only [bind_assoc, pure_bind]
  cases resolver target known with
  | some credentials => rfl
  | none => rfl

/-- The notes do not change what is answered, and they are kept in order. -/
theorem resolveNoting_eq (resolvers : List Resolver) (target : Target) (known : Environment)
    (noted : List Resolver) :
    (resolveNoting resolvers target known).run noted =
      (resolveBy resolvers target known, noted ++ asked resolvers target known) := by
  induction resolvers generalizing noted with
  | nil => exact congrArg (Prod.mk _) (List.append_nil noted).symm
  | cons resolver resolvers inductionHypothesis =>
      unfold asked
      rw [resolveNoting_cons, resolveNoting_cons, resolveBy_cons]
      cases resolver target known with
      | some credentials => rfl
      | none =>
          dsimp only
          rw [inductionHypothesis, inductionHypothesis, ← List.append_assoc]
          rfl

theorem asked_cons (resolver : Resolver) (resolvers : List Resolver) (target : Target)
    (known : Environment) :
    asked (resolver :: resolvers) target known =
      resolver :: if (resolver target known).isSome then [] else asked resolvers target known := by
  have noting := resolveNoting_cons resolver resolvers target known []
  rw [resolveNoting_eq, resolveNoting_eq] at noting
  cases answer : resolver target known with
  | some credentials =>
      rw [answer] at noting
      exact congrArg Prod.snd noting
  | none =>
      rw [answer] at noting
      exact congrArg Prod.snd noting

/-- Resolvers that pass are asked, and the one that answers is the last. -/
theorem asked_of_answer {before : List Resolver} {resolver : Resolver} {target : Target}
    {known : Environment} (pass : forall other, other ∈ before -> other target known = none)
    (answers : (resolver target known).isSome = true) (later : List Resolver) :
    asked (before ++ resolver :: later) target known = before ++ [resolver] := by
  induction before with
  | nil =>
      rw [List.nil_append, asked_cons, if_pos answers]
      rfl
  | cons first before inductionHypothesis =>
      have rest := inductionHypothesis fun other member => pass other (List.mem_cons_of_mem _ member)
      have passes : ¬ (first target known).isSome = true := by
        rw [pass first List.mem_cons_self]
        exact Bool.false_ne_true
      rw [List.cons_append, asked_cons, if_neg passes, rest]
      rfl

/-- All resolvers are asked if none answers. -/
theorem asked_of_silence {resolvers : List Resolver} {target : Target} {known : Environment}
    (pass : forall other, other ∈ resolvers -> other target known = none) :
    asked resolvers target known = resolvers := by
  induction resolvers with
  | nil => rfl
  | cons first resolvers inductionHypothesis =>
      have rest := inductionHypothesis fun other member => pass other (List.mem_cons_of_mem _ member)
      have passes : ¬ (first target known).isSome = true := by
        rw [pass first List.mem_cons_self]
        exact Bool.false_ne_true
      rw [asked_cons, if_neg passes, rest]

/-- The first resolver that answers decides and is the last one asked.  Without an answer all are asked,
and there are no keys. -/
theorem resolveBy_first (resolvers : List Resolver) (target : Target) (known : Environment) :
    (exists before resolver later, resolvers = before ++ resolver :: later ∧
      (forall other, other ∈ before -> other target known = none) ∧
      resolver target known = some (resolveBy resolvers target known) ∧
      asked resolvers target known = before ++ [resolver]) ∨
    (forall other, other ∈ resolvers -> other target known = none) ∧
      resolveBy resolvers target known = {} ∧ asked resolvers target known = resolvers := by
  unfold resolveBy
  cases answer : resolvers.findSome? fun resolver => resolver target known with
  | some credentials =>
      rcases List.findSome?_eq_some_iff.mp answer with ⟨before, resolver, later, rfl, answers, pass⟩
      have answered : (resolver target known).isSome = true := by
        rw [answers]
        rfl
      exact .inl ⟨before, resolver, later, rfl, pass, answers, asked_of_answer pass answered later⟩
  | none =>
      have pass := List.findSome?_eq_none_iff.mp answer
      exact .inr ⟨pass, rfl, asked_of_silence pass⟩

/-! ## The law of resolution -/

/-- Credentials come whole from one source.  They are those of the target if it holds a pair of keys, and
then the environment has no part in them; else those of the environment if it holds a pair, and then what
the target holds has none; else they are anonymous.  Both keys are there or neither is, and a client for
them signs with all their parts, or with none exactly if they are anonymous.  Of any other resolvers the
first that answers decides, and no later one is asked. -/
theorem credentials_from_one_source (target : Target) (known : Environment) :
    (forall credentials, resolve target known = credentials ↔ Sourced target known credentials) ∧
    (forall accessKey secretKey, target.HoldsKeys accessKey secretKey ->
      forall other, resolve target other = resolve target known) ∧
    (target.IsKeyless -> forall other : Target, other.IsKeyless ->
      resolve other known = resolve target known) ∧
    (resolve target known).IsWhole ∧
    Signing.Fits (resolve target known)
      (ClientOptions.ofTarget target (resolve target known)).signing ∧
    ((ClientOptions.ofTarget target (resolve target known)).signing = .unsigned ↔
      (resolve target known).isAnonymous = true) ∧
    (forall resolvers : List Resolver,
      (exists before resolver later, resolvers = before ++ resolver :: later ∧
        (forall other, other ∈ before -> other target known = none) ∧
        resolver target known = some (resolveBy resolvers target known) ∧
        asked resolvers target known = before ++ [resolver]) ∨
      (forall other, other ∈ resolvers -> other target known = none) ∧
        resolveBy resolvers target known = {} ∧ asked resolvers target known = resolvers) := by
  have whole := (sourced_resolve target known).isWhole
  refine ⟨fun credentials => resolve_eq_iff, ?_, ?_, whole, ClientOptions.signing_fits whole target,
    ClientOptions.signing_ofCredentials_eq_unsigned_iff _ _ _, ?_⟩
  · intro accessKey secretKey held other
    exact resolve_of_keys held other
  · intro keyless other alsoKeyless
    exact resolve_of_keyless keyless alsoKeyless
  · intro resolvers
    exact resolveBy_first resolvers target known

/-- Half a pair in the target counts for nothing, an empty variable is passed over for the next name, and
the session token comes along with the keys of the environment. -/
theorem credentials_from_one_source_half_configured :
    let target : Target := { accessKey := some "half", secretKey := some "" }
    let known : Environment := [("AWS_ACCESS_KEY_ID", ""), ("AWS_ACCESS_KEY", "access"),
      ("AWS_SECRET_ACCESS_KEY", "secret"), ("AWS_SESSION_TOKEN", "token")]
    resolve target known =
        { accessKey := some "access", secretKey := some "secret", sessionToken := some "token",
          source := "environment" } ∧
      (ClientOptions.ofTarget target (resolve target known)).signing =
        .keys "access" (some "secret") (some "token") ∧
      forall other : Target, other.IsKeyless -> resolve other known = resolve target known := by
  intro target known
  have keyless : target.IsKeyless := by
    intro accessKey secretKey held
    exact held.secretFilled (Option.some.inj held.secret).symm
  have access : known.FirstHolds accessKeyNames "access" := by
    refine ⟨["AWS_ACCESS_KEY_ID"], "AWS_ACCESS_KEY", [], rfl, ⟨rfl, by decide⟩, ?_⟩
    intro other member held holds
    cases List.mem_singleton.mp member
    exact holds.2 (Option.some.inj holds.1).symm
  have secret : known.FirstHolds secretKeyNames "secret" :=
    ⟨[], "AWS_SECRET_ACCESS_KEY", ["AWS_SECRET_KEY"], rfl, ⟨rfl, by decide⟩, nofun⟩
  have token : forall value, some "token" = some value ↔ known.Holds sessionTokenName value := by
    intro value
    refine ⟨fun same => ⟨same, ?_⟩, fun holds => holds.1⟩
    cases same
    decide
  rcases credentials_from_one_source target known with ⟨decides, _, unmixed, _⟩
  have resolved := (decides _).mpr (.environment keyless ⟨access, secret⟩ token)
  refine ⟨resolved, ?_, unmixed keyless⟩
  rw [resolved]
  rfl

end Credentials
end ObjectWatch
