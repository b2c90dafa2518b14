import ObjectWatch.Proofs.Gzip.Terms

/-!
# Opening a body

A body is opened by reading its first block, and nothing is handed out yet.  A body that stands for
something is opened unless it fails, and one that is not opened is closed if it was taken for content
that is not gzip.

The magic bytes are read by one request, so a body that shows a single byte at first is never opened,
whatever follows that byte.
-/

namespace ObjectWatch

/-- A body that does not refuse is closed by closing it. -/
theorem Body.close_of_willing {body : Body} (willing : body.closeFault = none) :
    body.close = .ok () { body with closed := true } := by
  unfold Body.close
  split
  · rename_i refuses
    rw [willing] at refuses
    cases refuses
  · rfl

namespace Gzip

variable {failure : Option Fault} {more : Bytes}

namespace Stream

theorem yields_ofBody (body : Body) (content : Bytes) :
    (ofBody body).Yields more content ↔ decode? (body.rest ++ more) = some content :=
  yields_of_no_block content

/-- Opening ends as its first request does, and the block is what that brings. -/
theorem prime_ends_of_read {body : Body} {good : Bytes -> Reader -> Prop} {bad : Fault -> Reader -> Prop}
    (read : Ends (Reader.read (ofBody body).reader.bound blockSize (ofBody body).reader) good bad) :
    Ends (prime (ofBody body))
      (fun _ after => exists chunk reader, after = ⟨reader, chunk, false⟩ ∧ good chunk reader)
      (fun error after => exists reader, after = ⟨reader, [], false⟩ ∧ bad error reader) := by
  rw [prime]
  refine Ends.bind ?_
  refine Ends.bind ((onReader_ends read).mono ?_ fun _ _ failed => failed)
  rintro chunk _ ⟨reader, rfl, brings⟩
  exact ⟨chunk, reader, rfl, brings⟩

/-- Opening hands out nothing. -/
theorem prime_ends {body : Body} (serves : body.Serves failure more) (shows : body.Shows failure) :
    Ends (prime (ofBody body)) (fun _ after => (ofBody body).Gives failure more [] after)
      (fun error _ => (ofBody body).Refuses failure more error) := by
  have sound : (ofBody body).reader.Sound failure more := ⟨serves, .inr shows⟩
  refine (prime_ends_of_read (Reader.read_ends (by decide) (Nat.le_refl _) sound)).mono ?_ ?_
  · rintro _ _ ⟨chunk, reader, rfl, gives, _, _⟩
    exact gives_of_reader gives rfl 0
  · rintro error _ ⟨reader, rfl, refuses⟩
    exact refuses_of_reader refuses

/-- Once a body is opened, the stream yields what the format says that its bytes stand for. -/
theorem Gives.yields_iff {body : Body} {stream : Stream}
    (gives : (ofBody body).Gives failure more [] stream) (content : Bytes) :
    stream.Yields more content ↔ decode? (body.rest ++ more) = some content := by
  rw [← gives.yields.iff_of_nil]
  exact yields_ofBody body content

theorem prime_of_openBody {body : Body} {stream : Stream} (opens : openBody body = .ok stream) :
    prime (ofBody body) = .ok () stream := by
  unfold openBody at opens
  cases primed : prime (ofBody body) with
  | ok value after =>
      rw [primed] at opens
      cases opens
      rfl
  | error error after =>
      rw [primed] at opens
      dsimp only at opens
      split at opens
      · split at opens <;> cases opens
      · cases opens

/-- A body that can be opened gives a stream that yields what the body stands for. -/
theorem openBody_ok {body : Body} (serves : body.Serves failure more)
    (shows : body.Shows failure) {stream : Stream}
    (opens : openBody body = .ok stream) : (ofBody body).Gives failure more [] stream :=
  (prime_ends serves shows).of_ok (prime_of_openBody opens)

/-- A body that stands for something can be opened, unless it fails or hides its magic bytes. -/
theorem openBody_of_decode? {body : Body} (serves : body.Serves none more) (shows : body.Shows none)
    {content : Bytes}
    (decoded : decode? (body.rest ++ more) = some content) :
    exists stream, openBody body = .ok stream := by
  have ends := prime_ends serves shows
  unfold openBody
  cases primed : prime (ofBody body) with
  | ok value after => exact ⟨after, rfl⟩
  | error error after =>
      rcases ends.of_error primed with failed | ⟨_, nothing⟩
      · cases failed
      · exact absurd ((yields_ofBody body content).mpr decoded) (nothing content)

/-! ## Bodies that are not opened -/

/-- What is told about a body that is not opened is why, or that it refuses to be closed. -/
theorem openBody_of_error {body : Body} {fault : Fault} {stream : Stream}
    (failed : prime (ofBody body) = .error fault stream) :
    exists told after, openBody body = .error (told, after) ∧
      (told = fault ∨ fault.spoilsOpening = true ∧ body.closeFault = some told) := by
  have same : stream.body.terms = body.terms := prime_heeds_terms.leaves.of_error failed
  have refusal : stream.body.terms.closeFault = body.terms.closeFault := by rw [same]
  have refusal : stream.body.closeFault = body.closeFault := refusal
  unfold openBody
  rw [failed]
  dsimp only
  by_cases spoils : fault.spoilsOpening = true
  · rw [if_pos spoils, close, Body.close, refusal]
    cases body.closeFault with
    | none => exact ⟨fault, _, rfl, .inl rfl⟩
    | some told => exact ⟨told, _, rfl, .inr ⟨spoils, rfl⟩⟩
  · rw [if_neg spoils]
    exact ⟨fault, _, rfl, .inl rfl⟩

/-- What is told about a body that is not opened is a fault that reading it can meet, or its refusal to
be closed. -/
theorem openBody_allows {body left : Body} {cause : Fault}
    (failed : openBody body = .error (cause, left)) :
    body.Allows cause ∨ body.closeFault = some cause := by
  cases primed : prime (ofBody body) with
  | ok value stream =>
      rw [openBody, primed] at failed
      cases failed
  | error fault stream =>
      have allowed : body.terms.Allows fault := prime_heeds_terms.of_error primed
      rcases openBody_of_error primed with ⟨told, after, fails, why⟩
      rw [failed] at fails
      cases fails
      rcases why with rfl | ⟨_, refuses⟩
      · exact .inl allowed
      · exact .inr refuses

/-- The header of the first member is the first thing that is read. -/
theorem prime_of_header_error {body : Body} {fault : Fault} {after : Source}
    (failed : readHeader (ofBody body).reader.bound (ofBody body).reader.source =
      .error fault after) :
    prime (ofBody body) = .error fault ⟨⟨after, .betweenMembers⟩, [], false⟩ := by
  have found : Reader.onSource (readHeader (ofBody body).reader.bound) (ofBody body).reader =
      .error fault ⟨after, .betweenMembers⟩ := by
    rw [Reader.onSource, failed]
    rfl
  have entered : Reader.enterMember (ofBody body).reader.bound (ofBody body).reader =
      .error fault ⟨after, .betweenMembers⟩ := bind_of_error found _
  have fetched : Reader.read (ofBody body).reader.bound blockSize (ofBody body).reader =
      .error fault ⟨after, .betweenMembers⟩ := bind_of_error entered _
  have read : onReader (Reader.read (ofBody body).reader.bound blockSize) (ofBody body) =
      .error fault ⟨⟨after, .betweenMembers⟩, [], false⟩ := by
    rw [onReader, fetched]
    rfl
  exact bind_of_error read _

theorem readHeader_of_lone_byte (bound : Nat) {byte : UInt8} {source after : Source}
    (reads : Source.read 2 source = .ok [byte] after) :
    exists message, readHeader bound source = .error (notGzip message) after := by
  have other : [byte] ≠ magic := fun same => by cases same
  refine ⟨"Not a gzipped file (" ++ Text.quotedBytes [byte] ++ ")", (bind_of_ok reads _).trans ?_⟩
  rw [if_neg (List.cons_ne_nil byte []), if_pos other]
  rfl

/-- A body that shows a single byte at first is taken for content that is not gzip. -/
theorem prime_of_lone_byte {body : Body} (opened : body.closed = false)
    (lone : (body.rest.take (body.capped 2)).length = 1) :
    exists message after, prime (ofBody body) = .error (notGzip message) after := by
  rcases List.length_eq_one_iff.mp lone with ⟨byte, shown⟩
  have nonempty : body.rest ≠ [] := by
    intro empty
    rw [empty, List.take_nil] at shown
    cases shown
  have served : (body.serve (body.capped 2)).1 = [byte] := shown
  have asked : body.read (some 2) = .ok [byte] (body.serve (body.capped 2)).2 := by
    rw [Body.read_of_open opened (by decide), if_neg nonempty, served]
  have reads := Source.read_of_body_read asked
  rcases readHeader_of_lone_byte (ofBody body).reader.bound reads with ⟨message, failed⟩
  exact ⟨message, _, prime_of_header_error failed⟩

end Stream

/-- A body without bytes that can be opened does not fail. -/
theorem Stream.unfailing_of_openBody {body : Body} {stream : Stream} (opened : body.closed = false)
    (empty : body.rest = []) (opens : openBody body = .ok stream) : body.failure = none := by
  rcases body with ⟨rest, failure, readCap, closeFault, closed, limits⟩
  cases opened
  cases empty
  cases failure with
  | none => rfl
  | some fault =>
      have failed := @prime_of_header_error ⟨[], some fault, readCap, closeFault, false, limits⟩ _ _ rfl
      rw [prime_of_openBody opens] at failed
      cases failed

/-! ## What opening leaves -/

section Abandoned

variable {body left : Body} {cause : Fault}

/-- What opening leaves of a willing body is the body, read up to some place, and closed if the fault
counts as content that is not gzip. -/
theorem left_of_openBody_error (willing : body.closeFault = none)
    (failed : openBody body = .error (cause, left)) :
    left = { body with rest := left.rest, closed := body.closed || cause.spoilsOpening } ∧
      body.Allows cause := by
  have allowed : body.Allows cause := by
    rcases Stream.openBody_allows failed with allowed | refuses
    · exact allowed
    · rw [willing] at refuses
      cases refuses
  refine ⟨?_, allowed⟩
  unfold openBody at failed
  cases primed : Stream.prime (Stream.ofBody body) with
  | ok value stream =>
      rw [primed] at failed
      cases failed
  | error fault stream =>
      have same : stream.body.terms = body.terms := Stream.prime_heeds_terms.leaves.of_error primed
      have whole : stream.body = { body with rest := stream.body.rest } :=
        congrArg (fun terms : Body => { terms with rest := stream.body.rest }) same
      have agrees : stream.body.closeFault = none :=
        (congrArg Body.closeFault whole).trans willing
      rw [primed] at failed
      dsimp only at failed
      by_cases spoils : fault.spoilsOpening = true
      · rw [if_pos spoils, Stream.close, Body.close_of_willing agrees] at failed
        cases failed
        rw [spoils, Bool.or_true]
        exact congrArg (fun read : Body => { read with closed := true }) whole
      · rw [if_neg spoils] at failed
        cases failed
        rw [Bool.not_eq_true] at spoils
        rw [spoils, Bool.or_false]
        exact whole

/-- A willing body that could not be opened is closed exactly if it was so before or the fault counts as
content that is not gzip. -/
theorem closed_iff_of_openBody_error (willing : body.closeFault = none)
    (failed : openBody body = .error (cause, left)) :
    left.closed = true ↔ body.closed = true ∨ cause.spoilsOpening = true := by
  rw [(left_of_openBody_error willing failed).1, ← Bool.or_eq_true]

/-- The fault that leaves a body open is the body's own. -/
theorem failure_of_left_open (willing : body.closeFault = none)
    (failed : openBody body = .error (cause, left)) (opened : left.closed = false) :
    body.failure = some cause := by
  rcases left_of_openBody_error willing failed with ⟨same, allowed⟩
  rw [same, Bool.or_eq_false_iff] at opened
  refine (allowed.cases_of_open opened.1).resolve_right ?_
  rw [opened.2]
  exact Bool.false_ne_true

end Abandoned
end Gzip
end ObjectWatch
