import ObjectWatch.Settings.Target
import ObjectWatch.EnvFile.Expansion
import ObjectWatch.Text.Quoted

/-!
# Who the store is asked as

Credentials come whole from one source: from the configuration of the target, or else from the
environment, or else there are none and the store is asked anonymously.  Half a pair of keys counts
as no keys, and an empty text counts as no text, so two sources never mix.

A source is a resolver, which gives credentials or passes.  The first resolver that gives any
decides.
-/

namespace ObjectWatch

open EnvFile (Environment)

/-- The keys that a store is asked with, and the name of the source that gave them. -/
structure Credentials where
  accessKey : Option String := none
  secretKey : Option String := none
  sessionToken : Option String := none
  source : String := "anonymous"
deriving DecidableEq, Repr

namespace Credentials

/-- Without an access key the store is asked anonymously. -/
def isAnonymous (credentials : Credentials) : Bool := credentials.accessKey.isNone

/-- The form in which credentials are shown: it names the source and no key. -/
def shown (credentials : Credentials) : String :=
  "Credentials(source=" ++ Text.quoted credentials.source ++ ", anonymous=" ++
    Text.shownBool credentials.isAnonymous ++ ")"

/-- The value of a text that is not empty. -/
def filled? : Option String -> Option String
  | some s => if s = "" then none else some s
  | none => none

/-- The value of the first of the named variables that is not empty. -/
def firstFilled? (environment : Environment) (names : List String) : Option String :=
  names.findSome? fun name => filled? (environment.lookup name)

/-- The variables that hold an access key, the preferred one first. -/
def accessKeyNames : List String := ["AWS_ACCESS_KEY_ID", "AWS_ACCESS_KEY"]

/-- The variables that hold a secret key, the preferred one first. -/
def secretKeyNames : List String := ["AWS_SECRET_ACCESS_KEY", "AWS_SECRET_KEY"]

/-- The variable that holds a session token. -/
def sessionTokenName : String := "AWS_SESSION_TOKEN"

end Credentials

/-- A source of credentials. -/
abbrev Resolver := Target -> Environment -> Option Credentials

namespace Resolver

/-- The pair of keys of the target, if it has both. -/
def explicit : Resolver := fun target _ =>
  match Credentials.filled? target.accessKey, Credentials.filled? target.secretKey with
  | some accessKey, some secretKey =>
      some { accessKey := some accessKey, secretKey := some secretKey, source := "explicit" }
  | _, _ => none

/-- The pair of keys of the environment, if it has both, with the session token beside it. -/
def environment : Resolver := fun _ known =>
  match Credentials.firstFilled? known Credentials.accessKeyNames,
      Credentials.firstFilled? known Credentials.secretKeyNames with
  | some accessKey, some secretKey =>
      some
        { accessKey := some accessKey
          secretKey := some secretKey
          sessionToken := Credentials.filled? (known.lookup Credentials.sessionTokenName)
          source := "environment" }
  | _, _ => none

/-- No keys at all. -/
def anonymous : Resolver := fun _ _ => some {}

/-- The sources in the order in which they are asked. -/
def standard : List Resolver := [explicit, environment, anonymous]

end Resolver

namespace Credentials

/-- The credentials of the first resolver that gives any, and none at all when no resolver does. -/
def resolveBy (resolvers : List Resolver) (target : Target) (known : Environment) :
    Credentials :=
  (resolvers.findSome? fun resolver => resolver target known).getD {}

/-- The credentials for a target in an environment. -/
def resolve (target : Target) (known : Environment) : Credentials :=
  resolveBy Resolver.standard target known

/-- A resolver that passes is as good as absent, and one that answers decides. -/
theorem resolveBy_cons (resolver : Resolver) (resolvers : List Resolver) (target : Target)
    (known : Environment) :
    resolveBy (resolver :: resolvers) target known =
      match resolver target known with
      | some credentials => credentials
      | none => resolveBy resolvers target known := by
  unfold resolveBy
  rw [List.findSome?_cons]
  cases resolver target known <;> rfl

end Credentials
end ObjectWatch
