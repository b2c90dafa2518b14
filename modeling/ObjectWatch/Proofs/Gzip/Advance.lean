import ObjectWatch.Proofs.Gzip.Exactness

/-!
# Behind the first header

Once a reader has the first header of a file behind it, it never comes back to that header.  It is inside the
first member until that member was found whole, with its data and its trailer, and only then does it come to
another header.  `Reader.IsPast` says where such a reader stands, `MetPast` lists what can go wrong there, and
every operation keeps to both.

So a fault that complains about a header is met there only if the first member is whole, and then it is about
what follows that member.
-/

namespace ObjectWatch
namespace Gzip

open Deflate (Inflater bitsOfBytes)
open Deflate.Position (Finishes Reaches)

variable {failure : Option Fault} {file : Bytes}

/-- A reader that has the first header of a file behind it: it is inside the first member, with some of its
data read, or it found the first member whole and is somewhere behind it. -/
inductive Reader.IsPast (file : Bytes) : Reader -> Prop where
  | inFirst {source : Source} {s : Inflater} {data : Bytes} (header : afterHeader? file = some data)
      (walk : Reaches ({}, bitsOfBytes data) (s.core, s.held ++ bitsOfBytes source.ahead)) :
      IsPast file ⟨source, .inMember s⟩
  | behindFirst {source : Source} {place : Place} {content rest : Bytes}
      (whole : member? file = some (content, rest)) (behind : source.ahead <:+ rest) :
      IsPast file ⟨source, place⟩

/-- What goes wrong for a reader that has the first header of a file behind it. -/
inductive MetPast (failure : Option Fault) (file : Bytes) : Fault -> Prop where
  | body {fault : Fault} (failed : failure = some fault) : MetPast failure file fault
  | data (flaw : Deflate.Flaw) : MetPast failure file (corrupt flaw)
  /-- The file ends inside of a member. -/
  | ended : MetPast failure file Source.truncated
  | checksum (stored computed : Nat) :
      MetPast failure file
        (notGzip ("CRC check failed " ++ Text.hexMarked stored ++ " != " ++ Text.hexMarked computed))
  | length : MetPast failure file (notGzip "Incorrect length of data produced")
  /-- Behind the whole first member there is something else than a header. -/
  | laterHeader {source after : Source} {content rest : Bytes} {bound : Nat} {fault : Fault}
      (whole : member? file = some (content, rest)) (behind : source.ahead <:+ rest)
      (serves : source.body.Serves failure []) (shows : source.Shows failure)
      (failed : readHeader bound source = .error fault after) :
      MetPast failure file fault

theorem Source.Takes.suffix {more taken : Bytes} {source after : Source}
    (takes : Source.Takes failure more source taken after) : after.ahead <:+ source.ahead :=
  ⟨taken, takes.ahead⟩

namespace Reader

/-! ## The steps of a request -/

theorem verify_metPast (bound : Nat) (payload : Bytes) {source : Source}
    (enough : source.remaining < bound) (serves : source.body.Serves failure []) :
    Ends (verify bound payload source) (fun _ _ => True) (fun error _ => MetPast failure file error) := by
  unfold verify
  refine Ends.bind ((Source.readExactly_ends 8 serves).mono ?_ ?_)
  · rintro trailer second ⟨_, takes⟩
    have fewer := takes.length_eq
    by_cases otherSum : Source.littleEndian (trailer.take 4) ≠ (Checksum.crc32 payload).toNat
    · simp only [if_pos otherSum]
      exact MetPast.checksum _ _
    simp only [if_neg otherSum]
    by_cases otherSize : Source.littleEndian (trailer.drop 4) ≠ payload.length % lengthModulus
    · simp only [if_pos otherSize]
      exact MetPast.length
    simp only [if_neg otherSize]
    exact (Source.skipPadding_ends bound (by omega) takes.serves).mono (fun _ _ _ => trivial)
      fun _ _ failed => .body failed
  · rintro error after (failed | ⟨rfl, _⟩)
    · exact .body failed
    · exact .ended

/-- The first member is whole if its data has ended and its trailer belongs to it. -/
theorem member?_of_done {data rest : Bytes} {source : Source} {s : Inflater} (resting : s.Resting)
    (header : afterHeader? file = some data)
    (walk : Reaches ({}, bitsOfBytes data) (s.core, s.held ++ bitsOfBytes source.ahead))
    (done : s.phase = .done) (trailer : afterTrailer? s.output.toList source.ahead = some rest) :
    member? file = some (s.output.toList, rest) := by
  have finishes := (walk.finishes_iff s.output _).mpr (Finishes.of_done done _)
  have decoded := (Deflate.decode?_iff data s.output.toList source.ahead).mpr
    ⟨s.held, resting.held, finishes⟩
  exact member?_eq_some_iff.mpr ⟨data, source.ahead, header, decoded, trailer⟩

theorem afterTrailer?_suffix {content bytes rest : Bytes}
    (found : afterTrailer? content bytes = some rest) : rest <:+ bytes := by
  unfold afterTrailer? at found
  split at found
  · cases found
    exact List.drop_suffix 8 bytes
  · cases found

theorem finishMember_past (bound : Nat) {reader : Reader} (enough : reader.source.remaining < bound)
    (sound : reader.Sound failure []) (past : reader.IsPast file) :
    Ends (finishMember bound reader) (fun _ after => after.IsPast file)
      (fun error _ => MetPast failure file error) := by
  rcases reader with ⟨source, place⟩
  cases place with
  | betweenMembers => exact past
  | inMember s =>
      have resting : s.Resting := sound.place
      rw [finishMember_inMember]
      cases done : s.isDone with
      | false => exact past
      | true =>
          have ended := isDone_iff.mp done
          have met : Ends _ _ (fun error _ => MetPast failure file error) :=
            verify_metPast bound s.output.toList enough sound.serves
          have verified := (verify_ends bound s.output.toList enough sound.serves).and met
          rw [if_pos rfl]
          refine Ends.bind ((onSource_ends verified).mono ?_ ?_)
          · rintro _ middle ⟨after, rfl, ⟨_, _, _, rest, trailer, padded⟩, _⟩
            rw [List.append_nil] at trailer padded
            have behind : after.ahead <:+ rest := padded ▸ List.dropWhile_suffix _
            cases past with
            | inFirst header walk =>
                exact IsPast.behindFirst (member?_of_done resting header walk ended trailer) behind
            | behindFirst whole within =>
                exact IsPast.behindFirst whole
                  (behind.trans ((afterTrailer?_suffix trailer).trans within))
          · rintro error middle ⟨after, rfl, _, met⟩
            exact met

theorem enterMember_past (bound : Nat) {reader : Reader} (enough : reader.source.remaining < bound)
    (sound : reader.Sound failure []) (past : reader.IsPast file) :
    Ends (enterMember bound reader) (fun _ after => after.IsPast file)
      (fun error _ => MetPast failure file error) := by
  rcases reader with ⟨source, place⟩
  cases place with
  | inMember s => exact past
  | betweenMembers =>
      cases past with
      | behindFirst whole behind =>
          have found := (readHeader_ends bound enough sound.serves sound.place).and (Ends.of_self _)
          rw [enterMember_betweenMembers]
          refine Ends.bind ((onSource_ends found).mono ?_ ?_)
          · rintro found middle
              ⟨after, rfl, ⟨rfl, _, _, takes⟩ | ⟨rfl, _, ⟨taken, takes⟩, _⟩, _⟩
            · exact IsPast.behindFirst whole (takes.suffix.trans behind)
            · exact IsPast.behindFirst whole (takes.suffix.trans behind)
          · rintro error middle ⟨after, rfl, _, failed⟩
            exact .laterHeader whole behind sound.serves sound.place failed

/-- A request inside of a member moves on over its bits and hands back the bytes that it did not use.  It
brings nothing as long as there is no output. -/
theorem decompress_walks {limit : Nat} (positive : 0 < limit) {source : Source} {s : Inflater}
    (sound : Sound failure [] ⟨source, .inMember s⟩) :
    Ends (decompress limit ⟨source, .inMember s⟩)
      (fun result after => exists next, after.place = .inMember next ∧
        after.source.ahead <:+ source.ahead ∧
        Reaches (s.core, s.held ++ bitsOfBytes source.ahead)
          (next.core, next.held ++ bitsOfBytes after.source.ahead) ∧
        (next.output = #[] -> result.1 = []))
      (fun error _ => failure = some error ∨ exists flaw, error = corrupt flaw) := by
  have resting : s.Resting := sound.place
  have serves : source.body.Serves failure [] := sound.serves
  have reads := Source.read_ends serves chunkSize
  rw [decompress_eq]
  cases read : Source.read chunkSize source with
  | error error after => exact .inl (reads.of_error read)
  | ok input after =>
      have split : source.ahead = input ++ after.ahead := (reads.of_ok read).takes.ahead.symm
      dsimp only
      cases inflated : s.inflate limit input with
      | mk result rest =>
          rcases rest with ⟨next, left⟩
          cases result with
          | error flaw => exact .inr ⟨flaw, rfl⟩
          | ok piece =>
              have answer := Inflater.inflate_answer resting positive inflated
              have ahead : Source.ahead { after with pending := left ++ after.pending } =
                  left ++ after.ahead := List.append_assoc _ _ _
              refine ⟨next, rfl, ?_, ?_, fun nothing => ?_⟩
              · rcases Inflater.inflate_suffix inflated with ⟨taken, same⟩
                refine ⟨taken, ?_⟩
                rw [ahead, split, ← same, List.append_assoc]
              · rw [ahead, split]
                exact answer.reaches after.ahead
              · have handedOut := answer.handedOut
                rw [nothing] at handedOut
                simpa using handedOut.symm

theorem decompress_past {limit : Nat} (positive : 0 < limit) {reader : Reader} {s : Inflater}
    (sound : reader.Sound failure []) (inside : reader.place = .inMember s)
    (past : reader.IsPast file) :
    Ends (decompress limit reader) (fun _ after => after.IsPast file)
      (fun error _ => MetPast failure file error) := by
  rcases reader with ⟨source, place⟩
  cases inside
  refine (decompress_walks positive sound).mono ?_ ?_
  · rintro result ⟨after, _⟩ ⟨next, rfl, behind, walk, _⟩
    cases past with
    | inFirst header start => exact .inFirst header (start.trans walk)
    | behindFirst whole within => exact .behindFirst whole (behind.trans within)
  · rintro error after (failed | ⟨flaw, rfl⟩)
    · exact .body failed
    · exact .data flaw

/-! ## Requests -/

/-- A reader that is on its way behind the first header of a file, and for which the bound is large
enough. -/
structure IsUnderWay (failure : Option Fault) (file : Bytes) (bound : Nat) (reader : Reader) : Prop where
  enough : reader.source.remaining + 2 ≤ bound
  sound : reader.Sound failure []
  past : reader.IsPast file

theorem readRounds_past {bound limit : Nat} (positive : 0 < limit) (rounds : Nat) {reader : Reader}
    (underWay : reader.IsUnderWay failure file bound) :
    Ends (readRounds bound limit rounds reader) (fun _ after => after.IsUnderWay failure file bound)
      (fun error _ => MetPast failure file error) := by
  induction rounds generalizing reader with
  | zero => exact MetPast.ended
  | succ rounds inductionHypothesis =>
      rcases underWay with ⟨enough, sound, past⟩
      rw [readRounds]
      refine Ends.bind (((finishMember_ends bound (by omega) sound).and
        (finishMember_past bound (by omega) sound past)).mono ?_ fun _ _ met => met.2)
      rintro _ second ⟨⟨first, _, left⟩, past⟩
      have fewer := first.fewer
      refine Ends.bind (((enterMember_ends bound (by omega) first.sound left).and
        (enterMember_past bound (by omega) first.sound past)).mono ?_ fun _ _ met => met.2)
      rintro found third ⟨⟨second, ⟨rfl, _⟩ | ⟨rfl, _, s, inside, undone⟩⟩, past⟩
      · exact ⟨Nat.le_trans (Nat.add_le_add_right (first.trans second).fewer 2) enough,
          second.sound, past⟩
      · have entered := first.trans second
        refine Ends.bind (((decompress_ends positive second.sound inside undone).and
          (decompress_past positive second.sound inside past)).mono ?_ fun _ _ met => met.2)
        rintro ⟨piece, hadInput⟩ fourth ⟨⟨third, _⟩, past⟩
        have underWay : fourth.IsUnderWay failure file bound :=
          ⟨Nat.le_trans (Nat.add_le_add_right (entered.trans third).fewer 2) enough, third.sound, past⟩
        by_cases nothing : piece = []
        · subst nothing
          cases hadInput with
          | false => exact MetPast.ended
          | true => exact inductionHypothesis underWay
        · have some : (!piece.isEmpty) = true := by
            rw [Bool.not_eq_true', List.isEmpty_eq_false_iff]
            exact nothing
          simp only [some, if_true]
          exact underWay

theorem read_past (bound limit : Nat) {reader : Reader}
    (underWay : reader.IsUnderWay failure file bound) :
    Ends (read bound limit reader) (fun _ after => after.IsUnderWay failure file bound)
      (fun error _ => MetPast failure file error) := by
  rw [read]
  by_cases none : limit = 0
  · rw [if_pos none]
    exact underWay
  · rw [if_neg none]
    exact readRounds_past (Nat.pos_of_ne_zero none) bound underWay

end Reader

/-! ## What requests keep, reads keep -/

namespace Stream

section Kept

variable {bound : Nat} {kept : Reader -> Prop} {bad : Fault -> Prop}
  (requests : forall limit {reader}, kept reader ->
    Ends (Reader.read bound limit reader) (fun _ after => kept after) (fun error _ => bad error))

include requests

theorem readBlocks_keeps (rounds wanted : Nat) (got : List Bytes) {reader : Reader}
    (holds : kept reader) :
    Ends (readBlocks bound rounds wanted got reader) (fun _ after => kept after)
      (fun error _ => bad error) := by
  induction rounds generalizing wanted got reader with
  | zero => exact holds
  | succ rounds inductionHypothesis =>
      rw [readBlocks]
      by_cases few : wholeBlocks wanted = 0
      · rw [if_pos few]
        exact holds
      · rw [if_neg few]
        refine Ends.bind ((requests _ holds).mono ?_ fun _ _ failed => failed)
        intro chunk middle holds
        cases chunk.isEmpty with
        | true => exact holds
        | false => exact inductionHypothesis _ _ holds

theorem fillBlock_keeps (rounds wanted : Nat) (got : List Bytes) (room : Nat) {reader : Reader}
    (holds : kept reader) :
    Ends (fillBlock bound rounds wanted got room reader) (fun _ after => kept after)
      (fun error _ => bad error) := by
  induction rounds generalizing wanted room got reader with
  | zero => exact holds
  | succ rounds inductionHypothesis =>
      rw [fillBlock]
      by_cases none : wanted = 0
      · rw [if_pos none]
        exact holds
      · rw [if_neg none]
        refine Ends.bind ((requests _ holds).mono ?_ fun _ _ failed => failed)
        intro chunk middle holds
        cases chunk.isEmpty with
        | true => exact holds
        | false => exact inductionHypothesis _ _ _ holds

theorem drain_keeps (rounds : Nat) (got : List Bytes) {reader : Reader} (holds : kept reader) :
    Ends (drain bound rounds got reader) (fun _ after => kept after) (fun error _ => bad error) := by
  induction rounds generalizing got reader with
  | zero => exact holds
  | succ rounds inductionHypothesis =>
      rw [drain]
      refine Ends.bind ((requests _ holds).mono ?_ fun _ _ failed => failed)
      intro chunk middle holds
      cases chunk.isEmpty with
      | true => exact holds
      | false => exact inductionHypothesis _ holds

/-- A read past the block keeps what every request keeps. -/
theorem readPast_keeps (size : Nat) (taken : Bytes) {stream : Stream} (holds : kept stream.reader) :
    Ends (readPast size bound taken stream) (fun _ after => kept after.reader)
      (fun error _ => bad error) := by
  rcases stream with ⟨reader, block, closed⟩
  rw [readPast]
  refine Ends.bind ((onReader_ends (readBlocks_keeps requests size _ [] holds)).mono ?_ ?_)
  · rintro ⟨blocks, wanted, ended⟩ _ ⟨middle, rfl, holds⟩
    cases ended with
    | true => exact holds
    | false =>
        refine Ends.bind ((onReader_ends (fillBlock_keeps requests wanted wanted [] blockSize
          holds)).mono ?_ ?_)
        · rintro pieces _ ⟨after, rfl, holds⟩
          exact holds
        · rintro error _ ⟨after, rfl, failed⟩
          exact failed
  · rintro error _ ⟨middle, rfl, failed⟩
    exact failed

end Kept

/-- What every request keeps, a read of an admissible size keeps, and it fails only as a request does. -/
theorem read_keeps {kept : Reader -> Prop} {bad : Fault -> Prop} {stream : Stream} {size : Int}
    (requests : forall limit {reader}, kept reader ->
      Ends (Reader.read stream.reader.bound limit reader) (fun _ after => kept after)
        (fun error _ => bad error))
    (inRange : -1 ≤ size) (opened : stream.closed = false) (holds : kept stream.reader) :
    Ends (read size stream) (fun _ after => kept after.reader) (fun error _ => bad error) := by
  rw [read_of_inRange inRange opened]
  split
  · rw [readAll_eq]
    refine Ends.bind ((onReader_ends (drain_keeps requests _ [] holds)).mono ?_ ?_)
    · rintro rest _ ⟨after, rfl, holds⟩
      exact holds
    · rintro error _ ⟨after, rfl, failed⟩
      exact failed
  · by_cases enough : size.toNat ≤ stream.block.length
    · rw [readUpTo_of_enough enough]
      exact holds
    · rw [readUpTo_of_short enough]
      exact readPast_keeps requests size.toNat stream.block holds

/-- A read of an admissible size meets nothing but what goes wrong behind the first header. -/
theorem read_past {stream : Stream} {size : Int} (inRange : -1 ≤ size) (opened : stream.closed = false)
    (sound : stream.reader.Sound failure []) (past : stream.reader.IsPast file) :
    Ends (read size stream) (fun _ after => after.reader.IsPast file)
      (fun error _ => MetPast failure file error) := by
  have underWay : stream.reader.IsUnderWay failure file stream.reader.bound :=
    ⟨Nat.le_refl _, sound, past⟩
  exact (read_keeps (Reader.read_past _) inRange opened underWay).mono
    (fun _ _ underWay => underWay.past) fun _ _ met => met

end Stream
end Gzip
end ObjectWatch
