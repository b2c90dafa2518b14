import ObjectWatch.Store.Credentials

/-!
# The client of a store

A client is built from a region and credentials.  It signs its requests with all three parts of the
credentials or does not sign at all.  Building one sends nothing.
-/

namespace ObjectWatch

/-- How requests are signed. -/
inductive Signing where
  | unsigned
  | keys (accessKey : String) (secretKey sessionToken : Option String)
deriving DecidableEq, Repr

/-- What a client is built with. -/
structure ClientOptions where
  region : String
  signing : Signing
  /-- Trust the certificates that come with the program and not those of the system. -/
  embeddedCertificates : Bool := false
deriving DecidableEq, Repr

namespace ClientOptions

/-- The options that belong to credentials.  The secret and the session token go wherever the access
key goes. -/
def ofCredentials (credentials : Credentials) (region : String) (embeddedCertificates : Bool) :
    ClientOptions :=
  { region, embeddedCertificates
    signing := match credentials.accessKey with
      | none => .unsigned
      | some accessKey => .keys accessKey credentials.secretKey credentials.sessionToken }

/-- The options for a target. -/
def ofTarget (target : Target) (credentials : Credentials) : ClientOptions :=
  ofCredentials credentials target.regionInUse target.embeddedCertificates

/-- Requests are unsigned exactly for anonymous credentials. -/
theorem signing_ofCredentials_eq_unsigned_iff (credentials : Credentials) (region : String)
    (embeddedCertificates : Bool) :
    (ofCredentials credentials region embeddedCertificates).signing = .unsigned ↔
      credentials.isAnonymous = true := by
  cases same : credentials.accessKey <;> simp [ofCredentials, Credentials.isAnonymous, same]

end ClientOptions
end ObjectWatch
