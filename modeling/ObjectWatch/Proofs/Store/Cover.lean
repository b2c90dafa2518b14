import ObjectWatch.Proofs.Settings.Acceptance
import ObjectWatch.Store.Client

/-!
# Covering keys

To cover a text is to keep from it only whether it is empty.  Here the access keys, the secret keys and the
session token are covered wherever they occur: in the settings, in a target, among the variables of the
environment, in credentials and in the options of a client.

Everything that is made from keys on the way to a client can be made from covered keys as well, and the
result is the covered one.  So which source gives the credentials, whether they are anonymous, and whether a
client signs, does not depend on what the keys are.
-/

namespace ObjectWatch

open EnvFile (Environment)

/-! ## Texts -/

/-- A text of which nothing is left but whether it is empty. -/
def Text.covered (s : String) : String := if s = "" then "" else "*"

namespace Text

variable {s : String}

@[simp] theorem covered_eq_empty_iff : covered s = "" ↔ s = "" := by
  unfold covered
  by_cases empty : s = ""
  · rw [if_pos empty]
    exact iff_of_true rfl empty
  · rw [if_neg empty]
    exact iff_of_false (by decide) empty

theorem covered_eq_iff {other : String} : covered s = covered other ↔ (s = "" ↔ other = "") := by
  constructor
  · intro same
    rw [← covered_eq_empty_iff, same, covered_eq_empty_iff]
  · intro alike
    unfold covered
    simp only [alike]

end Text

namespace Credentials

/-- A covered text is filled if the text is. -/
theorem filled?_covered (text : Option String) :
    filled? (text.map Text.covered) = (filled? text).map Text.covered := by
  cases text with
  | none => rfl
  | some s =>
      unfold filled?
      simp only [Option.map_some, Text.covered_eq_empty_iff]
      split <;> rfl

/-- An empty text is as good as none. -/
theorem filled?_getD (text : Option String) : filled? (some (text.getD "")) = filled? text := by
  cases text <;> rfl

/-- Credentials with covered keys. -/
def covered (credentials : Credentials) : Credentials :=
  { credentials with
    accessKey := credentials.accessKey.map Text.covered
    secretKey := credentials.secretKey.map Text.covered
    sessionToken := credentials.sessionToken.map Text.covered }

/-- The form in which credentials are shown does not depend on the keys. -/
theorem shown_covered (credentials : Credentials) : credentials.covered.shown = credentials.shown := by
  have anonymous : credentials.covered.isAnonymous = credentials.isAnonymous := Option.isNone_map
  unfold shown
  rw [anonymous]
  rfl

/-- The variables that hold keys. -/
def keyNames : List String := accessKeyNames ++ secretKeyNames ++ [sessionTokenName]

end Credentials

/-! ## The environment -/

namespace EnvFile.Environment

open Credentials (keyNames filled? firstFilled?)

/-- What is left of a variable. -/
def coveredValue (environment : Environment) (name : String) : String :=
  Text.covered ((environment.lookup name).getD "")

/-- The variables that hold keys, covered.  No other variable has a part in the credentials. -/
def covered (environment : Environment) : Environment :=
  keyNames.map fun name => (name, environment.coveredValue name)

theorem lookup_map_of_mem {name : String} {names : List String} (value : String -> String)
    (member : name ∈ names) :
    (names.map fun name => (name, value name)).lookup name = some (value name) := by
  induction names with
  | nil => exact absurd member List.not_mem_nil
  | cons first names inductionHypothesis =>
      rw [List.map_cons, List.lookup_cons]
      by_cases same : name = first
      · subst same
        rw [beq_self_eq_true]
      · rw [beq_false_of_ne same]
        exact inductionHypothesis ((List.mem_cons.mp member).resolve_left same)

/-- A covered variable is filled if the variable is. -/
theorem filled?_lookup_covered (environment : Environment) {name : String} (isKey : name ∈ keyNames) :
    filled? (environment.covered.lookup name) = (filled? (environment.lookup name)).map Text.covered := by
  unfold covered
  rw [lookup_map_of_mem environment.coveredValue isKey]
  exact (Credentials.filled?_covered (some ((environment.lookup name).getD ""))).trans
    (congrArg (Option.map Text.covered) (Credentials.filled?_getD _))

theorem firstFilled?_covered (environment : Environment) {names : List String}
    (areKeys : forall name, name ∈ names -> name ∈ keyNames) :
    firstFilled? environment.covered names = (firstFilled? environment names).map Text.covered := by
  unfold firstFilled?
  induction names with
  | nil => rfl
  | cons name names inductionHypothesis =>
      have later := inductionHypothesis fun other member => areKeys other (List.mem_cons_of_mem _ member)
      rw [List.findSome?_cons, List.findSome?_cons,
        filled?_lookup_covered environment (areKeys name List.mem_cons_self)]
      cases filled? (environment.lookup name) with
      | some s => rfl
      | none => exact later

end EnvFile.Environment

/-! ## Credentials -/

/-- A target with covered keys. -/
def Target.covered (target : Target) : Target :=
  { target with
    accessKey := target.accessKey.map Text.covered
    secretKey := target.secretKey.map Text.covered }

namespace Resolver

open Credentials (filled?_covered)

/-- Covered keys make no difference to the resolver. -/
def HeedsCover (resolver : Resolver) : Prop :=
  forall target known, resolver target.covered known.covered =
    (resolver target known).map Credentials.covered

theorem explicit_heedsCover : explicit.HeedsCover := by
  intro target known
  unfold explicit Target.covered
  dsimp only
  rw [filled?_covered, filled?_covered]
  cases Credentials.filled? target.accessKey with
  | none => rfl
  | some accessKey =>
      cases Credentials.filled? target.secretKey with
      | none => rfl
      | some secretKey => rfl

theorem environment_heedsCover : environment.HeedsCover := by
  intro target known
  have accessKeys := @EnvFile.Environment.firstFilled?_covered known Credentials.accessKeyNames (by decide)
  have secretKeys := @EnvFile.Environment.firstFilled?_covered known Credentials.secretKeyNames (by decide)
  have sessionToken := @EnvFile.Environment.filled?_lookup_covered known Credentials.sessionTokenName
    (by decide)
  unfold environment
  rw [accessKeys, secretKeys, sessionToken]
  cases Credentials.firstFilled? known Credentials.accessKeyNames with
  | none => rfl
  | some accessKey =>
      cases Credentials.firstFilled? known Credentials.secretKeyNames with
      | none => rfl
      | some secretKey => rfl

theorem standard_heedsCover : forall resolver, resolver ∈ standard -> HeedsCover resolver := by
  intro resolver member
  rcases List.mem_cons.mp member with rfl | member
  · exact explicit_heedsCover
  · rcases List.mem_cons.mp member with rfl | member
    · exact environment_heedsCover
    · cases List.mem_singleton.mp member
      exact fun _ _ => rfl

end Resolver

/-- Covered keys give the covered credentials, if they make no difference to any resolver. -/
theorem Credentials.resolveBy_covered {resolvers : List Resolver}
    (heed : forall resolver, resolver ∈ resolvers -> Resolver.HeedsCover resolver) (target : Target)
    (known : Environment) :
    resolveBy resolvers target.covered known.covered = (resolveBy resolvers target known).covered := by
  induction resolvers with
  | nil => rfl
  | cons resolver resolvers inductionHypothesis =>
      have later := inductionHypothesis fun other member => heed other (List.mem_cons_of_mem _ member)
      rw [resolveBy_cons, resolveBy_cons, heed resolver List.mem_cons_self]
      cases resolver target known with
      | some credentials => rfl
      | none => exact later

theorem Credentials.resolve_covered (target : Target) (known : Environment) :
    resolve target.covered known.covered = (resolve target known).covered :=
  resolveBy_covered Resolver.standard_heedsCover target known

/-! ## Clients -/

/-- A way of signing with covered keys. -/
def Signing.covered : Signing -> Signing
  | unsigned => unsigned
  | keys accessKey secretKey sessionToken =>
      keys (Text.covered accessKey) (secretKey.map Text.covered) (sessionToken.map Text.covered)

/-- The options of a client with covered keys. -/
def ClientOptions.covered (options : ClientOptions) : ClientOptions :=
  { options with signing := options.signing.covered }

/-- Covered keys give the covered options. -/
theorem ClientOptions.ofTarget_covered (target : Target) (credentials : Credentials) :
    ofTarget target.covered credentials.covered = (ofTarget target credentials).covered := by
  unfold ofTarget ofCredentials Credentials.covered covered
  cases credentials.accessKey <;> rfl

/-! ## Settings -/

namespace Settings

/-- Settings with covered keys. -/
def covered (settings : Settings) : Settings :=
  { settings with
    accessKey := Text.covered settings.accessKey
    secretKey := Text.covered settings.secretKey }

theorem nonEmpty?_covered (s : String) : nonEmpty? (Text.covered s) = (nonEmpty? s).map Text.covered := by
  unfold nonEmpty?
  simp only [Text.covered_eq_empty_iff]
  split <;> rfl

theorem described_covered (settings : Settings) :
    settings.covered.described = settings.described.covered := by
  unfold described covered
  dsimp only
  rw [nonEmpty?_covered, nonEmpty?_covered]
  rfl

/-- Covered settings describe the covered target, or they are refused for the same reason. -/
theorem target_covered (settings : Settings) :
    settings.covered.target = settings.target.map Target.covered := by
  have interval : settings.covered.interval = settings.interval := rfl
  rw [target_eq_check, target_eq_check, described_covered, interval]
  cases positiveInterval settings.interval with
  | ok x => rfl
  | error complaint => rfl

end Settings
end ObjectWatch
