import ObjectWatch.Proofs.Delivery.Reading
import ObjectWatch.Proofs.Gzip.Advance

/-!
# What is refused at once

Opening a body asks for its first block, and no block is brought by bytes without a header, nor by a member
whose data comes to a stop before it gave a byte.  Such bytes are unfit, and a body of unfit bytes is refused
by opening it and closed, however few bytes it serves at a time.

A body that was opened has the header of its first member behind it, so no read of its stream can complain
about that header.  Only a body without bytes is opened although it has no header.
-/

namespace ObjectWatch

/-! ## Data from which nothing comes -/

namespace Deflate

namespace Position

/-- The walk comes to a stop before its end and before it gave any output: the bits are used up, or a flaw was
found. -/
def Barren (start : Position) : Prop :=
  exists last, Reaches start last ∧ last.next = none ∧ last.1.phase ≠ .done ∧ last.1.output = #[]

variable {start other : Position}

/-- A walk that is barren is so from every position on it. -/
theorem Barren.after (barren : start.Barren) (reaches : Reaches start other) : other.Barren := by
  rcases barren with ⟨last, later, ended, undone, nothing⟩
  exact ⟨last, reaches.onward later ended, ended, undone, nothing⟩

theorem Barren.undone (barren : start.Barren) : start.1.phase ≠ .done := by
  intro done
  rcases barren with ⟨last, later, _, undone, _⟩
  have ended : start.next = none := by
    unfold next
    rw [done]
  exact undone (Reaches.eq_of_next_eq_none ended later ▸ done)

theorem Barren.output_eq (barren : start.Barren) : start.1.output = #[] := by
  rcases barren with ⟨last, later, _, _, nothing⟩
  have within := Reaches.output_extends later
  rw [nothing] at within
  exact Array.toList_eq_nil_iff.mp (List.prefix_nil.mp within)

end Position

/-- Compressed data is barren: it ends, or a flaw is found in it, before it gives a byte. -/
def Barren (data : Bytes) : Prop := Position.Barren ({}, bitsOfBytes data)

theorem barren_nil : Barren [] := ⟨_, .refl, rfl, fun impossible => (by cases impossible), rfl⟩

theorem barren_of_flaw {data : Bytes} {final : Bool} {flaw : Flaw} {rest : Bits}
    (found : Position.Reaches ({}, bitsOfBytes data) (Inflater.inPhase final #[] (.failed flaw), rest)) :
    Barren data := ⟨_, found, rfl, fun impossible => (by cases impossible), rfl⟩

end Deflate

namespace Gzip

open Deflate (Inflater bitsOfBytes)
open Deflate.Position (Barren Reaches)

/-! ## Unfit bytes -/

/-- Bytes that nothing comes out of: no header begins them, or their first member has barren data. -/
inductive Unfit (file : Bytes) : Prop where
  | noHeader (nothing : afterHeader? file = none)
  | barren {data : Bytes} (header : afterHeader? file = some data) (nothing : Deflate.Barren data)

/-- Bytes that end behind their header are unfit. -/
theorem Unfit.of_ended {file : Bytes} (header : afterHeader? file = some []) : Unfit file :=
  .barren header Deflate.barren_nil

variable {failure : Option Fault}

/-! ## The first request -/

namespace Reader

/-- A request in front of a header goes on behind it. -/
theorem readRounds_of_header {bound limit rounds : Nat} {source after : Source}
    (found : readHeader bound source = .ok true after) :
    readRounds bound limit (rounds + 1) ⟨source, .betweenMembers⟩ =
      readRounds bound limit (rounds + 1) ⟨after, .inMember {}⟩ := by
  have entered : enterMember bound ⟨source, .betweenMembers⟩ = .ok true ⟨after, .inMember {}⟩ := by
    rw [enterMember_betweenMembers]
    refine bind_of_ok (?_ : onSource _ _ = .ok true ⟨after, .betweenMembers⟩) _
    rw [onSource, found]
  have left : finishMember bound ⟨source, .betweenMembers⟩ = .ok () ⟨source, .betweenMembers⟩ := rfl
  have still : finishMember bound ⟨after, .inMember {}⟩ = .ok () ⟨after, .inMember {}⟩ := rfl
  have inside : enterMember bound ⟨after, .inMember {}⟩ = .ok true ⟨after, .inMember {}⟩ := rfl
  rw [readRounds, bind_of_ok left, bind_of_ok entered, bind_of_ok still, bind_of_ok inside]

/-- Inside of a member with barren data every request fails: as the body does, or as content does that is
not gzip. -/
theorem readRounds_of_barren (bound : Nat) {limit : Nat} (positive : 0 < limit) (rounds : Nat)
    {source : Source} {s : Inflater} (sound : Sound failure [] ⟨source, .inMember s⟩)
    (barren : Barren (s.core, s.held ++ bitsOfBytes source.ahead)) :
    Ends (readRounds bound limit rounds ⟨source, .inMember s⟩) (fun _ _ => False)
      (fun fault _ => failure = some fault ∨ fault.spoilsOpening = true) := by
  induction rounds generalizing source s with
  | zero => exact .inr rfl
  | succ rounds inductionHypothesis =>
      have undone : s.isDone = false := by
        refine Bool.eq_false_iff.mpr fun done => ?_
        exact barren.undone (isDone_iff.mp done)
      have still : finishMember bound ⟨source, .inMember s⟩ = .ok () ⟨source, .inMember s⟩ := by
        rw [finishMember_inMember, undone]
        rfl
      have inside : enterMember bound ⟨source, .inMember s⟩ = .ok true ⟨source, .inMember s⟩ := rfl
      rw [readRounds, bind_of_ok still, bind_of_ok inside]
      refine Ends.bind (((decompress_ends positive sound rfl undone).and
        (decompress_walks positive sound)).mono ?_ ?_)
      · rintro ⟨piece, hadInput⟩ ⟨after, _⟩ ⟨⟨gives, _⟩, next, rfl, _, later, silent⟩
        have barren := barren.after later
        have nothing : piece = [] := silent barren.output_eq
        subst nothing
        -- the request goes on if there was input, and else the data ends too early
        cases hadInput with
        | true => exact inductionHypothesis gives.sound barren
        | false => exact .inr rfl
      · rintro error after ⟨_, failed | ⟨flaw, rfl⟩⟩
        · exact .inl failed
        · exact .inr rfl

end Reader

namespace Stream

/-- The first request of an opening fails in the first header, or it goes on behind it. -/
theorem prime_enters {body : Body} (serves : body.Serves failure []) (nonempty : body.rest ≠ [])
    (shows : body.Shows failure) :
    (exists fault after, prime (ofBody body) = .error fault after ∧
      (failure = some fault ∨ fault.spoilsOpening = true)) ∨
    exists after, afterHeader? body.rest = some after.ahead ∧
      Reader.IsUnderWay failure body.rest (ofBody body).reader.bound ⟨after, .inMember {}⟩ ∧
      Reader.read (ofBody body).reader.bound blockSize (ofBody body).reader =
        Reader.readRounds (ofBody body).reader.bound blockSize (ofBody body).reader.bound
          ⟨after, .inMember {}⟩ := by
  have servesAhead : (ofBody body).reader.source.body.Serves failure [] := serves
  have showsAhead : (ofBody body).reader.source.Shows failure := .inr shows
  have ahead : (ofBody body).reader.source.ahead ++ [] = body.rest := List.append_nil _
  have header := readHeader_ends (ofBody body).reader.bound
    (Nat.lt_add_of_pos_right (by decide)) servesAhead showsAhead
  rw [ahead] at header
  cases read : readHeader (ofBody body).reader.bound (ofBody body).reader.source with
  | error fault after =>
      have misses := header.of_error read
      exact .inl ⟨fault, _, prime_of_header_error read, misses.imp_right And.left⟩
  | ok found after =>
      rcases header.of_ok read with ⟨_, empty, _⟩ | ⟨rfl, fewer, ⟨_, takes⟩, expected⟩
      · exact absurd empty nonempty
      · rw [List.append_nil] at expected
        refine .inr ⟨after, expected, ⟨?_, ⟨takes.serves, Inflater.resting_start⟩,
          .inFirst expected .refl⟩, ?_⟩
        · exact Nat.add_le_add_right (Nat.le_of_add_right_le fewer) 2
        · rw [Reader.read, if_neg (by decide)]
          exact Reader.readRounds_of_header read

/-- Unfit bytes are not opened. -/
theorem prime_of_unfit {body : Body} (live : body.IsLive) (nonempty : body.rest ≠ [])
    (unfit : Unfit body.rest) :
    Ends (prime (ofBody body)) (fun _ _ => False)
      (fun fault _ => body.failure = some fault ∨ fault.spoilsOpening = true) := by
  -- one request has to show the magic bytes, so a single byte is taken for something else at once
  rcases live.shows_or_lone_byte nonempty with lone | shows
  · rcases prime_of_lone_byte live.opened lone with ⟨message, after, failed⟩
    rw [failed]
    exact .inr rfl
  have serves : body.Serves body.failure [] := ⟨live.opened, rfl, live.serves, fun _ => rfl⟩
  rcases prime_enters serves nonempty shows with
    ⟨fault, after, failed, why⟩ | ⟨after, header, underWay, request⟩
  · rw [failed]
    exact why
  have barren : Deflate.Barren after.ahead := by
    cases unfit with
    | noHeader nothing =>
        rw [nothing] at header
        cases header
    | barren expected nothing =>
        rw [expected] at header
        cases header
        exact nothing
  have fails := Reader.readRounds_of_barren (ofBody body).reader.bound
    (by decide : 0 < blockSize) (ofBody body).reader.bound underWay.sound barren
  rw [← request] at fails
  refine (prime_ends_of_read fails).mono ?_ ?_
  · rintro _ _ ⟨chunk, reader, _, impossible⟩
    exact impossible
  · rintro fault _ ⟨reader, _, why⟩
    exact why

/-- A body that was opened has its first header behind it. -/
theorem prime_past {body : Body} (serves : body.Serves failure []) (nonempty : body.rest ≠ [])
    (shows : body.Shows failure) :
    Ends (prime (ofBody body)) (fun _ after => after.reader.IsPast body.rest) (fun _ _ => True) := by
  rcases prime_enters serves nonempty shows with
    ⟨fault, after, failed, _⟩ | ⟨after, _, underWay, request⟩
  · rw [failed]
    trivial
  have past := Reader.readRounds_past (by decide : 0 < blockSize) (ofBody body).reader.bound underWay
  rw [← request] at past
  refine (prime_ends_of_read past).mono ?_ fun _ _ _ => trivial
  rintro _ _ ⟨chunk, reader, rfl, underWay⟩
  exact underWay.past

end Stream

/-! ## What is opened -/

section Opened

variable {body : Body} {stream : Stream}

theorem openBody_of_unfit (live : body.IsLive) (nonempty : body.rest ≠ []) (unfit : Unfit body.rest) :
    exists fault left, openBody body = .error (fault, left) ∧
      (body.failure = none -> body.closeFault = none ->
        fault.spoilsOpening = true ∧ left.closed = true) := by
  have fails := Stream.prime_of_unfit live nonempty unfit
  cases primed : Stream.prime (Stream.ofBody body) with
  | ok value stream => exact absurd (fails.of_ok primed) not_false
  | error fault stream =>
      rcases Stream.openBody_of_error primed with ⟨told, left, refused, why⟩
      refine ⟨told, left, refused, fun unfailing willing => ?_⟩
      have spoils : told.spoilsOpening = true := by
        rcases why with rfl | ⟨_, refuses⟩
        · refine (fails.of_error primed).resolve_left fun failed => ?_
          rw [unfailing] at failed
          cases failed
        · rw [willing] at refuses
          cases refuses
      exact ⟨spoils, (closed_iff_of_openBody_error willing refused).mpr (.inr spoils)⟩

/-- A stream over bytes has the first header of them behind it. -/
theorem openBody_past (live : body.IsLive) (nonempty : body.rest ≠ [])
    (opens : openBody body = .ok stream) :
    stream.reader.IsPast body.rest ∧ stream.closed = false ∧
      stream.reader.Sound body.failure [] := by
  have shows := live.shows_of_openBody opens
  have serves : body.Serves body.failure [] := ⟨live.opened, rfl, live.serves, fun _ => rfl⟩
  have gives := Stream.openBody_ok serves shows opens
  have past := (Stream.prime_past serves nonempty shows).of_ok (Stream.prime_of_openBody opens)
  exact ⟨past, gives.opened, gives.sound⟩

/-- A body without bytes is opened if it does not fail, and the stream is at its end. -/
theorem openBody_of_empty (live : body.IsLive) (unfailing : body.failure = none)
    (empty : body.rest = []) : openBody body = .ok (.ofBody body) :=
  Stream.openBody_of_idle (Stream.idle_of_empty live.opened unfailing empty)

end Opened

/-- What is not gzip is refused at once.  A body of unfit bytes is not opened, and unless the body itself
fails it is closed and the fault counts as content that is not gzip.  A stream that was opened is at its end
if the body has no bytes.  Over bytes it is behind the first header of them, and a read of it meets nothing
but what goes wrong there.  A body without bytes is opened unless it fails. -/
theorem unfit_refused_at_once (body : Body) (live : body.IsLive) :
    (body.rest ≠ [] -> Unfit body.rest ->
      exists fault left, openBody body = .error (fault, left) ∧
        (body.failure = none -> body.closeFault = none ->
          fault.spoilsOpening = true ∧ left.closed = true)) ∧
    (forall stream, openBody body = .ok stream ->
      (body.rest = [] ∧ forall size, -1 ≤ size -> stream.read size = .ok [] stream) ∨
      (¬ Unfit body.rest ∧ stream.reader.IsPast body.rest ∧
        forall size fault after, stream.read size = .error fault after ->
          size < -1 ∨ MetPast body.failure body.rest fault)) ∧
    (body.rest = [] -> body.failure = none -> exists stream, openBody body = .ok stream) := by
  refine ⟨openBody_of_unfit live, fun stream opens => ?_,
    fun empty unfailing => ⟨_, openBody_of_empty live unfailing empty⟩⟩
  by_cases empty : body.rest = []
  · have unfailing := Stream.unfailing_of_openBody live.opened empty opens
    have same := openBody_of_empty live unfailing empty
    rw [opens] at same
    cases same
    exact .inl ⟨empty, fun size inRange =>
      Stream.read_of_idle (Stream.idle_of_empty live.opened unfailing empty) inRange⟩
  · rcases openBody_past live empty opens with ⟨past, opened, sound⟩
    refine .inr ⟨fun unfit => ?_, past, fun size fault after failed => ?_⟩
    · rcases openBody_of_unfit live empty unfit with ⟨fault, left, refused, _⟩
      rw [opens] at refused
      cases refused
    · by_cases inRange : -1 ≤ size
      · exact .inr ((Stream.read_past inRange opened sound past).of_error failed)
      · exact .inl (Int.not_le.mp inRange)

/-- A header in front of a block of a kind that does not exist is refused, one byte at a time as well as
three, and so is a header alone.  A whole member is opened. -/
theorem unfit_refused_at_once_behind_header :
    (exists fault left,
      openBody { rest := letterMember.take 10 ++ [7], readCap := some 3 } = .error (fault, left) ∧
        fault.spoilsOpening = true ∧ left.closed = true) ∧
    (exists fault left,
      openBody { rest := letterMember.take 10, readCap := some 1 } = .error (fault, left) ∧
        fault.spoilsOpening = true ∧ left.closed = true) ∧
    exists stream, openBody { rest := letterMember, readCap := some 3 } = .ok stream ∧
      stream.reader.IsPast letterMember := by
  have live (rest : Bytes) (cap : Nat) (positive : 0 < cap) :
      Body.IsLive { rest, readCap := some cap } := by
    refine ⟨rfl, fun other same => ?_⟩
    cases same
    exact positive
  have flawed : Unfit (letterMember.take 10 ++ [7]) := by
    have header : afterHeader? (letterMember.take 10 ++ [7]) = some [7] := rfl
    have flaw : Reaches ({}, bitsOfBytes [7])
        (Inflater.inPhase true #[] (.failed .blockType), List.replicate 5 false) :=
      ((Reaches.of_next rfl).trans (Reaches.of_next rfl)).trans (Reaches.of_next rfl)
    exact .barren header (Deflate.barren_of_flaw flaw)
  have alone : Unfit (letterMember.take 10) := .of_ended rfl
  have nonempty : letterMember.take 10 ++ [7] ≠ [] := by decide
  rcases (unfit_refused_at_once _ (live _ 3 (by decide))).1 nonempty flawed with
    ⟨fault, left, refused, spoils⟩
  refine ⟨⟨fault, left, refused, spoils rfl rfl⟩, ?_, ?_⟩
  · rcases (unfit_refused_at_once _ (live _ 1 (by decide))).1 (by decide) alone with
      ⟨fault, left, refused, spoils⟩
    exact ⟨fault, left, refused, spoils rfl rfl⟩
  · have decoded : decode? (letterMember ++ []) = some [97] := by decide +kernel
    have serves : Body.Serves none [] { rest := letterMember, readCap := some 3 } :=
      ⟨rfl, rfl, (live letterMember 3 (by decide)).serves, fun _ => rfl⟩
    have shows : Body.Shows none { rest := letterMember, readCap := some 3 } :=
      .inr ⟨by decide, .inl rfl⟩
    rcases Stream.openBody_of_decode? serves shows decoded with ⟨stream, opens⟩
    refine ⟨stream, opens, ?_⟩
    rcases (unfit_refused_at_once _ (live _ 3 (by decide))).2.1 stream opens with
      ⟨empty, _⟩ | ⟨_, past, _⟩
    · cases empty
    · exact past

end Gzip
end ObjectWatch
