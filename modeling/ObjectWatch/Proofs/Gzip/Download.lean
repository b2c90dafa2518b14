import ObjectWatch.Proofs.Gzip.Opening

/-!
# Downloads that fail

A download serves the first bytes of a gzip file and then fails, or it serves all of them.  Opening it
fails with the failure of the download and with nothing else, except after a single byte: there the lone
byte is taken for content that is not gzip, however the download fails.

So a download is mistaken for content that is not gzip in two cases.  Its failure belongs to the family
of the operating system, as a broken connection and a timeout do, and strikes while the download is
opened; or it strikes after the first byte.
-/

namespace ObjectWatch

open Gzip (openBody)

/-- A body that serves the front of a gzip file and can serve two bytes at first. -/
structure Body.IsDownload (body : Body) : Prop where
  opened : body.closed = false
  showsTwo : 2 ≤ body.capped 2
  closes : body.closeFault = none
  wellFormed : exists more content, Gzip.decode? (body.rest ++ more) = some content ∧
    (body.failure = none -> more = [])

/-- A download that cannot be opened, for a reason that counts as content that is not gzip. -/
def Body.IsMistaken (body : Body) : Prop :=
  (forall stream, openBody body ≠ .ok stream) ∧
    (body.rest.length = 1 ∨ exists fault, body.failure = some fault ∧ fault.spoilsOpening = true)

namespace Body.IsDownload

open Gzip.Stream (prime ofBody)

variable {body : Body}

theorem serves (download : body.IsDownload) :
    exists more content, body.Serves body.failure more ∧
      Gzip.decode? (body.rest ++ more) = some content := by
  rcases download.wellFormed with ⟨more, content, decoded, whole⟩
  have flows := Body.flows_of_showsTwo download.showsTwo
  exact ⟨more, content, ⟨download.opened, rfl, flows, whole⟩, decoded⟩

theorem shows (download : body.IsDownload) (several : body.rest.length ≠ 1) :
    body.Shows body.failure := .inr ⟨download.showsTwo, .inr several⟩

theorem prime_of_lone_byte (download : body.IsDownload) (lone : body.rest.length = 1) :
    exists message after, prime (ofBody body) = .error (Gzip.notGzip message) after := by
  have showsTwo := download.showsTwo
  refine Gzip.Stream.prime_of_lone_byte download.opened ?_
  rw [List.length_take, lone]
  omega

/-- Opening a download fails as the download does, except after a single byte. -/
theorem prime_ends (download : body.IsDownload) (several : body.rest.length ≠ 1) :
    Ends (prime (ofBody body)) (fun _ _ => True) (fun fault _ => body.failure = some fault) := by
  rcases download.serves with ⟨more, content, serves, decoded⟩
  refine (Gzip.Stream.prime_ends serves (download.shows several)).mono (fun _ _ _ => trivial) ?_
  intro fault after refuses
  rcases refuses with failed | ⟨_, nothing⟩
  · exact failed
  · exact absurd ((Gzip.Stream.yields_ofBody body content).mpr decoded) (nothing content)

/-- What is told about a download that is not opened. -/
theorem openBody_error (download : body.IsDownload) {cause : Fault} {left : Body}
    (failed : openBody body = .error (cause, left)) :
    body.rest.length = 1 ∧ cause.spoilsOpening = true ∨
      body.rest.length ≠ 1 ∧ body.failure = some cause := by
  have same : forall fault stream, prime (ofBody body) = .error fault stream -> cause = fault := by
    intro fault stream primed
    rcases Gzip.Stream.openBody_of_error primed with ⟨told, after, fails, why⟩
    rw [failed] at fails
    cases fails
    rcases why with same | ⟨_, refuses⟩
    · exact same
    · rw [download.closes] at refuses
      cases refuses
  by_cases lone : body.rest.length = 1
  · rcases download.prime_of_lone_byte lone with ⟨message, after, primed⟩
    rw [same _ _ primed]
    exact .inl ⟨lone, rfl⟩
  · cases primed : prime (ofBody body) with
    | ok value stream =>
        rw [openBody, primed] at failed
        cases failed
    | error fault stream =>
        rw [same _ _ primed]
        exact .inr ⟨lone, (download.prime_ends lone).of_error primed⟩

/-- A download is mistaken exactly when opening it fails as that of content that is not gzip does. -/
theorem isMistaken_iff (download : body.IsDownload) :
    body.IsMistaken ↔
      exists cause left, openBody body = .error (cause, left) ∧ cause.spoilsOpening = true := by
  constructor
  · rintro ⟨fails, why⟩
    cases opens : openBody body with
    | ok stream => exact absurd opens (fails stream)
    | error failed =>
        rcases failed with ⟨cause, left⟩
        refine ⟨cause, left, rfl, ?_⟩
        rcases download.openBody_error opens with ⟨_, spoils⟩ | ⟨several, failure⟩
        · exact spoils
        · rcases why with lone | ⟨fault, other, spoils⟩
          · exact absurd lone several
          · rw [failure] at other
            cases other
            exact spoils
  · rintro ⟨cause, left, failed, spoils⟩
    refine ⟨fun stream opens => ?_, ?_⟩
    · rw [failed] at opens
      cases opens
    · rcases download.openBody_error failed with ⟨lone, _⟩ | ⟨_, failure⟩
      · exact .inl lone
      · exact .inr ⟨cause, failure, spoils⟩

end Body.IsDownload
end ObjectWatch
