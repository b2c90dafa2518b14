import ObjectWatch.Proofs.Delivery.Collection
import ObjectWatch.Proofs.Gzip.Idle

/-!
# Reading content to its end

A sink reads content piece by piece, until a piece is empty or a read fails.  `Reads` is the account of
that: the bytes that came, why no more of them came, and the content as it is left behind.  The account
is unique, and it says nothing about a sink, so what a sink does with content can be compared with it.

For content that a watcher returns the account is known.  A body as it was served gives its bytes and
ends as the body does.  An unpacked body gives what its bytes stand for, and it never comes to an end if
the body fails: whatever the body has served until then, more could follow.
-/

namespace ObjectWatch

open Gzip (Stream)

/-- A body that was not closed, and from which every read takes something as long as there is something. -/
structure Body.IsLive (body : Body) : Prop where
  opened : body.closed = false
  serves : forall cap, body.readCap = some cap -> 0 < cap

/-- A body that is not live is closed, or a read takes nothing from it. -/
theorem Body.closed_or_stuck {body : Body} (lifeless : ¬ body.IsLive) :
    body.closed = true ∨ body.closed = false ∧ body.readCap = some 0 := by
  cases closed : body.closed with
  | true => exact .inl rfl
  | false =>
      refine .inr ⟨rfl, Classical.byContradiction fun flows => lifeless ⟨closed, fun cap capped => ?_⟩⟩
      exact Nat.pos_of_ne_zero fun zero => flows (zero ▸ capped)

namespace Content

open Transfer (pieceSize)

/-- Reading content in pieces brings the bytes, stops at the end or with a fault, and leaves content
behind. -/
inductive Reads : Content -> Bytes -> Option Fault -> Content -> Prop where
  | ended {content left : Content} (read : Content.read pieceSize content = .ok [] left) :
      Reads content [] none left
  | failed {content left : Content} {fault : Fault}
      (read : Content.read pieceSize content = .error fault left) :
      Reads content [] (some fault) left
  | piece {content next left : Content} {piece rest : Bytes} {stop : Option Fault}
      (read : Content.read pieceSize content = .ok piece next) (nonempty : piece ≠ [])
      (later : Reads next rest stop left) :
      Reads content (piece ++ rest) stop left

/-- Content is read to its end and then closed, and neither fails. -/
def Received (content : Content) (bytes : Bytes) : Prop :=
  exists left closed, content.Reads bytes none left ∧ left.close = .ok () closed

namespace Reads

variable {content left : Content} {bytes : Bytes} {stop : Option Fault}

/-- There is one account of reading content. -/
theorem unique (reads : content.Reads bytes stop left) {others : Bytes} {otherStop : Option Fault}
    {otherLeft : Content} (again : content.Reads others otherStop otherLeft) :
    bytes = others ∧ stop = otherStop ∧ left = otherLeft := by
  induction reads generalizing others otherStop otherLeft with
  | ended read =>
      cases again with
      | ended other =>
          rw [read] at other
          cases other
          exact ⟨rfl, rfl, rfl⟩
      | failed other =>
          rw [read] at other
          cases other
      | piece other nonempty later =>
          rw [read] at other
          cases other
          exact absurd rfl nonempty
  | failed read =>
      cases again with
      | ended other =>
          rw [read] at other
          cases other
      | failed other =>
          rw [read] at other
          cases other
          exact ⟨rfl, rfl, rfl⟩
      | piece other nonempty later =>
          rw [read] at other
          cases other
  | piece read nonempty later inductionHypothesis =>
      cases again with
      | ended other =>
          rw [read] at other
          cases other
          exact absurd rfl nonempty
      | failed other =>
          rw [read] at other
          cases other
      | piece other _ otherLater =>
          rw [read] at other
          cases other
          rcases inductionHypothesis otherLater with ⟨rfl, rfl, rfl⟩
          exact ⟨rfl, rfl, rfl⟩

/-- Reading changes nothing about the terms of the body. -/
theorem terms_eq (reads : content.Reads bytes stop left) : left.terms = content.terms := by
  induction reads with
  | ended read => exact (read_heeds_terms _).leaves.of_ok read
  | failed read => exact (read_heeds_terms _).leaves.of_error read
  | piece read nonempty later inductionHypothesis =>
      exact inductionHypothesis.trans ((read_heeds_terms _).leaves.of_ok read)

/-- What stops the reading of content of a body that raises nothing but external faults is external. -/
theorem admits (reads : content.Reads bytes stop left) {fault : Fault} (stopped : stop = some fault) :
    content.terms.Admits fault := by
  induction reads with
  | ended read => cases stopped
  | failed read =>
      cases stopped
      exact (read_heeds_terms _).of_error read
  | piece read nonempty later inductionHypothesis =>
      rw [← (read_heeds_terms _).leaves.of_ok read]
      exact inductionHypothesis stopped

/-- Content is received if reading comes to its end and the body does not refuse to be closed. -/
theorem received_iff (reads : content.Reads bytes stop left) (others : Bytes) :
    content.Received others ↔ stop = none ∧ content.terms.closeFault = none ∧ others = bytes := by
  have closes := left.close_ends
  rw [reads.terms_eq] at closes
  constructor
  · rintro ⟨otherLeft, closed, again, closing⟩
    rcases reads.unique again with ⟨rfl, rfl, rfl⟩
    exact ⟨rfl, closes.of_ok closing, rfl⟩
  · rintro ⟨rfl, unrefused, rfl⟩
    cases closing : left.close with
    | ok _ closed => exact ⟨left, closed, reads, closing⟩
    | error fault closed =>
        have refuses := closes.of_error closing
        rw [unrefused] at refuses
        cases refuses

end Reads

/-! ## Bodies as they were served -/

theorem read_raw (body : Body) :
    Content.read pieceSize (raw body) = within raw (body.read (some pieceSize)) := rfl

/-- A body gives its bytes and then ends as it does. -/
theorem reads_raw {body : Body} (live : body.IsLive) :
    (raw body).Reads body.rest body.failure (raw { body with rest := [] }) := by
  have positive : 0 < pieceSize := by decide
  generalize few : body.rest.length = size
  induction size using Nat.strongRecOn generalizing body with
  | ind size inductionHypothesis =>
      have read := read_raw body
      rw [Body.read_of_open live.opened positive] at read
      by_cases empty : body.rest = []
      · have same : { body with rest := [] } = body := by
          rw [← empty]
        rw [if_pos empty] at read
        rw [empty, same]
        cases failure : body.failure with
        | none =>
            rw [failure] at read
            exact .ended read
        | some fault =>
            rw [failure] at read
            exact .failed read
      · rw [if_neg empty] at read
        have served := Body.capped_positive live.serves positive
        have length := List.length_pos_iff.mpr empty
        have nonempty : (body.serve (body.capped pieceSize)).1 ≠ [] := by
          refine fun nothing => ?_
          rcases List.take_eq_nil_iff.mp nothing with zero | nothing
          · omega
          · exact empty nothing
        have later := @inductionHypothesis _ (by
          show (body.rest.drop (body.capped pieceSize)).length < size
          rw [List.length_drop]
          omega) (body.serve (body.capped pieceSize)).2 ⟨live.opened, live.serves⟩ rfl
        have reads := Reads.piece read nonempty later
        rw [body.serve_append] at reads
        exact reads

/-- A body that is closed, or from which a read takes nothing, gives nothing. -/
theorem exists_reads_lifeless {body : Body} (lifeless : ¬ body.IsLive) :
    exists stop, (raw body).Reads [] stop (raw body) := by
  have read := read_raw body
  rcases Body.closed_or_stuck lifeless with closed | ⟨opened, stuck⟩
  · have refused : body.read (some pieceSize) = .error _ body := if_pos closed
    rw [refused] at read
    exact ⟨_, .failed read⟩
  · have nothing := Body.capped_of_stuck stuck pieceSize
    rw [Body.read_of_open opened (by decide), nothing] at read
    by_cases empty : body.rest = []
    · rw [if_pos empty] at read
      cases failure : body.failure with
      | none =>
          rw [failure] at read
          exact ⟨_, .ended read⟩
      | some fault =>
          rw [failure] at read
          exact ⟨_, .failed read⟩
    · rw [if_neg empty] at read
      exact ⟨_, .ended read⟩

/-! ## Unpacked bodies -/

/-- What a sound stream gives, up to its end or up to a fault. -/
theorem reads_unpacked {failure : Option Fault} {more : Bytes} {stream : Stream}
    (opened : stream.closed = false) (sound : stream.reader.Sound failure more) :
    exists bytes stop left, (unpacked stream).Reads bytes stop left ∧
      bytes.length ≤ stream.potential ∧
      (stop = none -> forall content, stream.Yields more content ↔ content = bytes) ∧
      forall fault, stop = some fault -> stream.Refuses failure more fault := by
  generalize few : stream.potential = size
  induction size using Nat.strongRecOn generalizing stream with
  | ind size inductionHypothesis =>
      have positive : 0 < pieceSize := by decide
      have ends := Stream.readUpTo_ends positive opened sound
      rw [← Stream.read_of_positive positive opened] at ends
      cases result : stream.read pieceSize with
      | error fault after =>
          have read : Content.read pieceSize (unpacked stream) = .error fault (unpacked after) := by
            rw [Content.read, result]
            rfl
          refine ⟨[], some fault, _, .failed read, Nat.zero_le _, fun impossible => ?_, ?_⟩
          · cases impossible
          · rintro _ ⟨⟩
            exact ends.of_error result
      | ok piece after =>
          have read : Content.read pieceSize (unpacked stream) = .ok piece (unpacked after) := by
            rw [Content.read, result]
            rfl
          rcases ends.of_ok result with ⟨gives, ended⟩
          by_cases nothing : piece = []
          · subst nothing
            refine ⟨[], none, _, .ended read, Nat.zero_le _, fun _ => ended rfl, fun _ impossible => ?_⟩
            cases impossible
          · have used := gives.potential
            have length := List.length_pos_iff.mpr nothing
            rcases inductionHypothesis _ (by omega) gives.opened gives.sound rfl with
              ⟨rest, stop, left, later, bounded, whole, refuses⟩
            refine ⟨piece ++ rest, stop, left, .piece read nothing later, ?_, fun ended => ?_,
              fun fault stopped => gives.refuses (refuses fault stopped)⟩
            · rw [List.length_append]
              omega
            · exact gives.yields.only (whole ended)

/-- A stream that has nothing to give is at its end. -/
theorem reads_of_idle {body : Body} (idle : Stream.Idle (Stream.ofBody body).reader) :
    (unpacked (.ofBody body)).Reads [] none (unpacked (.ofBody body)) := by
  have read : (Stream.ofBody body).read pieceSize = .ok [] (Stream.ofBody body) :=
    Stream.read_of_idle idle (by decide)
  refine .ended ?_
  rw [Content.read, read]
  rfl

/-- A body that is closed cannot be opened. -/
theorem not_opened_of_closed {body : Body} (closed : body.closed = true) (stream : Stream) :
    Gzip.openBody body ≠ .ok stream := by
  intro opens
  rcases body with ⟨rest, failure, readCap, closeFault, closed, limits⟩
  cases closed
  have failed :=
    @Stream.prime_of_header_error ⟨rest, failure, readCap, closeFault, true, limits⟩ _ _ rfl
  rw [Stream.prime_of_openBody opens] at failed
  cases failed

/-- A body from which a read takes nothing looks as if it had nothing. -/
theorem reads_stuck {body : Body} (opened : body.closed = false) (stuck : body.readCap = some 0)
    {stream : Stream} (opens : Gzip.openBody body = .ok stream) :
    (unpacked stream).Reads [] none (unpacked stream) := by
  have idle : Stream.Idle (Stream.ofBody body).reader := by
    by_cases empty : body.rest = []
    · exact Stream.idle_of_empty opened (Stream.unfailing_of_openBody opened empty opens) empty
    · exact Stream.idle_of_stuck opened stuck empty
  have same := Stream.openBody_of_idle idle
  rw [opens] at same
  cases same
  exact reads_of_idle idle

end Content

namespace Body.IsLive

variable {body : Body} {stream : Stream}

/-- A body that has bytes shows one of them at first, or it shows the first two bytes of a member. -/
theorem shows_or_lone_byte (live : body.IsLive) (nonempty : body.rest ≠ []) :
    (body.rest.take (body.capped 2)).length = 1 ∨ body.Shows body.failure := by
  have length := List.length_pos_iff.mpr nonempty
  have positive : 0 < body.capped 2 := Body.capped_positive live.serves (by decide)
  rw [List.length_take]
  by_cases lone : min (body.capped 2) body.rest.length = 1
  · exact .inl lone
  · exact .inr (.inr ⟨by omega, .inr (by omega)⟩)

/-- A body that can be opened shows the first two bytes of a member, or that it has none. -/
theorem shows_of_openBody (live : body.IsLive) (opens : Gzip.openBody body = .ok stream) :
    body.Shows body.failure := by
  by_cases empty : body.rest = []
  · exact .inl ⟨empty, Stream.unfailing_of_openBody live.opened empty opens⟩
  · refine (live.shows_or_lone_byte empty).resolve_left fun lone => ?_
    rcases Stream.prime_of_lone_byte live.opened lone with ⟨message, after, failed⟩
    rw [Stream.prime_of_openBody opens] at failed
    cases failed

/-- The account of a body that was opened.  Its end is reached exactly if the body does not fail and
stands for something, which is then all that was read. -/
theorem reads_unpacked (live : body.IsLive) (opens : Gzip.openBody body = .ok stream) :
    exists bytes stop left, (Content.unpacked stream).Reads bytes stop left ∧
      bytes.length ≤ (Content.unpacked stream).bound ∧
      (forall others, stop = none ∧ others = bytes ↔
        body.failure = none ∧ Gzip.decode? body.rest = some others) ∧
      forall fault, stop = some fault -> body.failure = some fault ∨ fault.spoilsOpening = true := by
  have gives : forall more, (body.failure = none -> more = []) ->
      (Stream.ofBody body).Gives body.failure more [] stream := fun more whole =>
    Stream.openBody_ok ⟨live.opened, rfl, live.serves, whole⟩ (live.shows_of_openBody opens) opens
  have nothingMore := gives [] fun _ => rfl
  rcases Content.reads_unpacked nothingMore.opened nothingMore.sound with
    ⟨bytes, stop, left, reads, bounded, whole, refuses⟩
  have within := Stream.potential_le_outputBound nothingMore.sound
  have decodes := nothingMore.yields_iff
  rw [List.append_nil] at decodes
  refine ⟨bytes, stop, left, reads, Nat.le_trans bounded within, fun others => ⟨?_, ?_⟩, ?_⟩
  · rintro ⟨ended, rfl⟩
    have decoded := (decodes others).mp ((whole ended others).mpr rfl)
    refine ⟨?_, decoded⟩
    cases failure : body.failure with
    | none => rfl
    | some fault =>
        -- another member could follow, and then the same bytes would stand for more
        have member := gives Gzip.letterMember fun impossible => by
          rw [failure] at impossible
          cases impossible
        rcases Content.reads_unpacked member.opened member.sound with
          ⟨_, _, _, again, _, wholeAgain, _⟩
        rcases reads.unique again with ⟨rfl, rfl, _⟩
        have longer := (member.yields_iff others).mp ((wholeAgain ended others).mpr rfl)
        have two : Gzip.decode? Gzip.letterMember = some [97] := by decide +kernel
        rw [Gzip.decode?_append decoded (by decide) two] at longer
        have size := congrArg List.length (Option.some.inj longer)
        rw [List.length_append, List.length_singleton] at size
        omega
  · rintro ⟨unfailing, decoded⟩
    have yields := (decodes others).mpr decoded
    cases stop with
    | none => exact ⟨rfl, (whole rfl others).mp yields⟩
    | some fault =>
        rcases refuses fault rfl with failed | ⟨_, nothing⟩
        · rw [unfailing] at failed
          cases failed
        · exact absurd yields (nothing others)
  · intro fault stopped
    rcases refuses fault stopped with failed | ⟨spoils, _⟩
    · exact .inl failed
    · exact .inr spoils

end Body.IsLive

/-! ## What content holds -/

/-- What a body holds, as it was served or unpacked. -/
def Body.holds (body : Body) (unpacked : Bool) : Option Bytes :=
  if unpacked then Gzip.decode? body.rest else some body.rest

namespace Content

/-- Content presents a body as it was served, or unpacked. -/
inductive Presents (body : Body) : (unpacked : Bool) -> Content -> Prop where
  | asServed : Presents body false (.raw body)
  | unpacked {stream : Stream} (opens : Gzip.openBody body = .ok stream) :
      Presents body true (.unpacked stream)

variable {body : Body} {unpacked : Bool} {content : Content}

theorem Presents.terms_eq (presents : Presents body unpacked content) : content.terms = body.terms := by
  cases presents with
  | asServed => rfl
  | unpacked opens =>
      exact Gzip.Stream.prime_heeds_terms.leaves.of_ok (Stream.prime_of_openBody opens)

/-- The account of content that presents a body.  Its end is reached exactly if the body does not fail
and holds what was read. -/
theorem Presents.account (presents : Presents body unpacked content) (live : body.IsLive) :
    exists bytes stop left, content.Reads bytes stop left ∧ bytes.length ≤ content.bound ∧
      (forall others, stop = none ∧ others = bytes ↔
        body.failure = none ∧ body.holds unpacked = some others) ∧
      forall fault, stop = some fault -> body.failure = some fault ∨ fault.spoilsOpening = true := by
  cases presents with
  | asServed =>
      refine ⟨body.rest, body.failure, _, reads_raw live, Nat.le_refl _, fun others => ?_, fun _ => .inl⟩
      refine and_congr_right fun _ => ⟨fun same => congrArg some same.symm, fun held => ?_⟩
      exact (Option.some.inj held).symm
  | unpacked opens => exact live.reads_unpacked opens

/-- Whatever body content presents, there is an account of it. -/
theorem Presents.reads (presents : Presents body unpacked content) :
    exists bytes stop left, content.Reads bytes stop left ∧ bytes.length ≤ content.bound := by
  by_cases live : body.IsLive
  · rcases presents.account live with ⟨bytes, stop, left, reads, bounded, _⟩
    exact ⟨bytes, stop, left, reads, bounded⟩
  · cases presents with
    | asServed =>
        rcases exists_reads_lifeless live with ⟨stop, reads⟩
        exact ⟨[], stop, _, reads, Nat.zero_le _⟩
    | unpacked opens =>
        rcases Body.closed_or_stuck live with closed | ⟨opened, stuck⟩
        · exact absurd opens (not_opened_of_closed closed _)
        · exact ⟨[], none, _, reads_stuck opened stuck opens, Nat.zero_le _⟩

/-- Content is received exactly if its body neither fails nor refuses to be closed, and then it is what
the body holds. -/
theorem Presents.received_iff (presents : Presents body unpacked content) (live : body.IsLive)
    (bytes : Bytes) :
    content.Received bytes ↔
      body.failure = none ∧ body.closeFault = none ∧ body.holds unpacked = some bytes := by
  rcases presents.account live with ⟨others, stop, left, reads, _, ended, _⟩
  have closes : content.terms.closeFault = body.closeFault := by
    rw [presents.terms_eq]
    rfl
  rw [reads.received_iff bytes, closes, and_left_comm, ended bytes, and_left_comm]

end Content
end ObjectWatch
