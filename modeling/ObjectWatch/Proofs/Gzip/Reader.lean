import ObjectWatch.Proofs.Deflate.Feeding
import ObjectWatch.Proofs.Gzip.Header

/-!
# The reader gives what the format says

What a reader is still going to give is said by the format: in front of a member it is the content of
the file ahead, and inside of one it is what the member has not handed out yet, with the content of
the file behind it.  `Yields` states this for every reader, wherever it stands.

An operation that gives a piece leaves a reader that yields the rest.  An operation that ends with an
error was met by the failure of the body, or the reader did not yield anything.  Both are kept by every
step, and put together they hold for requests of any size.
-/

namespace ObjectWatch
namespace Gzip

open Deflate (Inflater maxMatch bitsOfBytes)
open Deflate.Position (Finishes Reaches Stuck)
open Source (Takes)

variable {failure : Option Fault} {more : Bytes}

/-! ## Giving a piece -/

/-- One promise of content is a piece and then what another one promises. -/
abbrev Splits (before : Bytes -> Prop) (piece : Bytes) (after : Bytes -> Prop) : Prop :=
  forall content, before content ↔ exists rest, content = piece ++ rest ∧ after rest

namespace Splits

variable {before middle after : Bytes -> Prop} {piece other rest : Bytes}

theorem of_iff (same : forall content, before content ↔ after content) : Splits before [] after := by
  intro content
  rw [same]
  constructor
  · intro promised
    exact ⟨content, rfl, promised⟩
  · rintro ⟨rest, rfl, promised⟩
    exact promised

theorem trans (first : Splits before piece middle) (second : Splits middle other after) :
    Splits before (piece ++ other) after := by
  intro content
  rw [first]
  constructor
  · rintro ⟨rest, rfl, promised⟩
    rcases (second rest).mp promised with ⟨last, rfl, later⟩
    exact ⟨last, (List.append_assoc _ _ _).symm, later⟩
  · rintro ⟨last, rfl, later⟩
    exact ⟨other ++ last, List.append_assoc _ _ _, (second _).mpr ⟨last, rfl, later⟩⟩

/-- The end of a piece can be kept back. -/
theorem keep (splits : Splits before (piece ++ other) after) :
    Splits before piece fun content => exists rest, content = other ++ rest ∧ after rest := by
  intro content
  rw [splits]
  constructor
  · rintro ⟨rest, rfl, promised⟩
    exact ⟨other ++ rest, List.append_assoc _ _ _, rest, rfl, promised⟩
  · rintro ⟨_, rfl, rest, rfl, promised⟩
    exact ⟨rest, (List.append_assoc _ _ _).symm, promised⟩

/-- After a piece without bytes the same is promised. -/
theorem iff_of_nil (splits : Splits before [] after) (content : Bytes) :
    before content ↔ after content := by
  rw [splits]
  constructor
  · rintro ⟨rest, rfl, promised⟩
    exact promised
  · intro promised
    exact ⟨content, rfl, promised⟩

/-- Where one content is left, one content was promised. -/
theorem only (splits : Splits before piece after) (left : forall content, after content ↔ content = rest)
    (content : Bytes) : before content ↔ content = piece ++ rest := by
  rw [splits]
  constructor
  · rintro ⟨last, rfl, promised⟩
    rw [(left last).mp promised]
  · rintro rfl
    exact ⟨rest, rfl, (left rest).mpr rfl⟩

/-- Where nothing is left to be promised, nothing was. -/
theorem nothing (splits : Splits before piece after) (left : forall content, ¬ after content)
    (content : Bytes) : ¬ before content := by
  intro promised
  rcases (splits content).mp promised with ⟨rest, _, later⟩
  exact left rest later

end Splits

namespace Reader

/-- What a reader is going to give, when `more` follows what its body serves. -/
def Yields (more : Bytes) (reader : Reader) (content : Bytes) : Prop :=
  match reader.place with
  | .betweenMembers => decode? (reader.source.ahead ++ more) = some content
  | .inMember s => exists output padding after rest others, padding.length < 8 ∧
      Finishes (s.core, s.held ++ bitsOfBytes (reader.source.ahead ++ more)) output
        (padding ++ bitsOfBytes after) ∧
      afterTrailer? output.toList after = some rest ∧
      decode? (rest.dropWhile (· == 0)) = some others ∧
      content = output.toList.drop s.delivered ++ others

/-- What a reader is between two requests. -/
structure Sound (failure : Option Fault) (more : Bytes) (reader : Reader) : Prop where
  serves : reader.source.body.Serves failure more
  place : match reader.place with
    | .betweenMembers => reader.source.Shows failure
    | .inMember s => s.Resting

/-- A bound on what a reader is going to give. -/
def potential (reader : Reader) : Nat :=
  match reader.place with
  | .betweenMembers => maxMatch * (8 * reader.source.remaining)
  | .inMember s => s.output.size - s.delivered + s.phase.due +
      maxMatch * (s.held.length + 8 * reader.source.remaining)

/-- A bound on the rounds of a request that gives nothing yet.  A member that has not ended has to end
before the next one is read. -/
def rounds (reader : Reader) : Nat :=
  match reader.place with
  | .betweenMembers => reader.source.remaining
  | .inMember s => reader.source.remaining + if s.isDone then 0 else 1

theorem rounds_le (reader : Reader) : reader.rounds ≤ reader.source.remaining + 1 := by
  rw [rounds]
  split
  · exact Nat.le_succ _
  · split
    · exact Nat.le_succ _
    · exact Nat.le_refl _

/-- A reader after it gave a piece. -/
structure Gives (failure : Option Fault) (more : Bytes) (reader : Reader) (piece : Bytes)
    (after : Reader) : Prop where
  sound : after.Sound failure more
  fewer : after.source.remaining ≤ reader.source.remaining
  potential : piece.length + after.potential ≤ reader.potential
  yields : Splits (reader.Yields more) piece (after.Yields more)

namespace Gives

variable {reader middle after : Reader} {piece other : Bytes}

protected theorem refl (sound : reader.Sound failure more) : Gives failure more reader [] reader where
  sound := sound
  fewer := Nat.le_refl _
  potential := Nat.le_of_eq (Nat.zero_add _)
  yields := .of_iff fun _ => Iff.rfl

theorem trans (first : Gives failure more reader piece middle)
    (second : Gives failure more middle other after) :
    Gives failure more reader (piece ++ other) after where
  sound := second.sound
  fewer := Nat.le_trans second.fewer first.fewer
  potential := by
    have := first.potential
    have := second.potential
    rw [List.length_append]
    omega
  yields := first.yields.trans second.yields

end Gives

/-- Why a request fails: the body did, or there is nothing that the reader could give in full. -/
def Refuses (failure : Option Fault) (more : Bytes) (reader : Reader) (error : Fault) : Prop :=
  failure = some error ∨ error.spoilsOpening = true ∧ forall content, ¬ reader.Yields more content

theorem Gives.refuses {reader after : Reader} {piece : Bytes} {error : Fault}
    (gives : Gives failure more reader piece after) (refuses : after.Refuses failure more error) :
    reader.Refuses failure more error := by
  rcases refuses with failed | ⟨spoils, nothing⟩
  · exact .inl failed
  · exact .inr ⟨spoils, gives.yields.nothing nothing⟩

theorem onSource_ends {α : Type} {act : Attempt Source α} {source : Source} {place : Place}
    {good : α -> Source -> Prop} {bad : Fault -> Source -> Prop} (ends : Ends (act source) good bad) :
    Ends (onSource act ⟨source, place⟩)
      (fun value after => exists source, after = ⟨source, place⟩ ∧ good value source)
      (fun error after => exists source, after = ⟨source, place⟩ ∧ bad error source) := by
  rw [onSource]
  cases result : act source with
  | ok value source => exact ⟨source, rfl, ends.of_ok result⟩
  | error error source => exact ⟨source, rfl, ends.of_error result⟩

/-! ## Leaving a member -/

theorem isDone_iff {s : Inflater} : s.isDone = true ↔ s.phase = .done := by
  rw [Inflater.isDone]
  constructor
  · intro done
    split at done
    · assumption
    · cases done
  · intro done
    rw [done]

/-- A member that has ended was handed out, so its trailer and what follows are all that is left. -/
theorem yields_of_done {source : Source} {s : Inflater} (resting : s.Resting)
    (done : s.phase = .done) (content : Bytes) :
    Yields more ⟨source, .inMember s⟩ content ↔ exists rest,
      afterTrailer? s.output.toList (source.ahead ++ more) = some rest ∧
      decode? (rest.dropWhile (· == 0)) = some content := by
  have finishes := Finishes.of_done done (s.held ++ bitsOfBytes (source.ahead ++ more))
  have handedOut : s.output.toList.drop s.delivered = [] := by
    rw [resting.ended done, ← Array.length_toList, List.drop_length]
  constructor
  · rintro ⟨output, padding, after, rest, others, short, finishesOther, trailer, decoded, rfl⟩
    rcases finishes.unique finishesOther with ⟨sameOutput, sameLeft⟩
    have sameAfter := Deflate.eq_of_padding short resting.held sameLeft
    subst sameOutput sameAfter
    rw [handedOut]
    exact ⟨rest, trailer, decoded⟩
  · rintro ⟨rest, trailer, decoded⟩
    refine ⟨s.output, s.held, _, rest, content, resting.held, finishes, trailer, decoded, ?_⟩
    rw [handedOut]
    rfl

theorem finishMember_inMember (bound : Nat) (source : Source) (s : Inflater) :
    finishMember bound ⟨source, .inMember s⟩ =
      (if s.isDone then (do
        onSource (verify bound s.output.toList)
        modify fun reader => { reader with place := .betweenMembers }
        : Attempt Reader Unit)
      else pure ()) ⟨source, .inMember s⟩ := rfl

theorem finishMember_ends (bound : Nat) {reader : Reader} (enough : reader.source.remaining < bound)
    (sound : reader.Sound failure more) :
    Ends (finishMember bound reader)
      (fun _ after => Gives failure more reader [] after ∧ after.rounds ≤ reader.rounds ∧
        forall s, after.place = .inMember s -> s.isDone = false)
      (fun error _ => reader.Refuses failure more error) := by
  rcases reader with ⟨source, place⟩
  cases place with
  | betweenMembers =>
      exact ⟨.refl sound, Nat.le_refl _, fun _ impossible => Place.noConfusion impossible⟩
  | inMember s =>
      have resting : s.Resting := sound.place
      rw [finishMember_inMember]
      cases done : s.isDone with
      | false =>
          rw [if_neg Bool.false_ne_true]
          refine ⟨.refl sound, Nat.le_refl _, fun other same => ?_⟩
          rw [← Place.inMember.inj same]
          exact done
      | true =>
          have ended := isDone_iff.mp done
          rw [if_pos rfl]
          refine Ends.bind ((onSource_ends (verify_ends bound _ enough sound.serves)).mono ?_ ?_)
          · rintro _ middle ⟨after, rfl, fewer, serves, shows, rest, trailer, padded⟩
            have fewer : after.remaining + 8 ≤ source.remaining := fewer
            refine ⟨⟨⟨serves, shows⟩, by dsimp only; omega, ?_, fun content => ?_⟩, ?_,
              fun _ impossible => Place.noConfusion impossible⟩
            · simp only [potential, maxMatch, List.length_nil]
              omega
            · rw [yields_of_done resting ended]
              constructor
              · rintro ⟨others, sameTrailer, decoded⟩
                cases Option.some.inj (trailer.symm.trans sameTrailer)
                exact ⟨content, rfl, (congrArg decode? padded).trans decoded⟩
              · rintro ⟨others, rfl, yields⟩
                exact ⟨rest, trailer, (congrArg decode? padded).symm.trans yields⟩
            · simp only [rounds]
              omega
          · rintro error middle ⟨after, rfl, misses⟩
            rcases misses with failed | ⟨spoils, refused⟩
            · exact .inl failed
            · refine .inr ⟨spoils, fun content yields => ?_⟩
              rcases (yields_of_done resting ended content).mp yields with ⟨rest, trailer, _⟩
              rw [refused] at trailer
              cases trailer

/-! ## Entering a member -/

/-- A member that was just entered yields what its compressed data stands for. -/
theorem yields_of_entered {source : Source} (content : Bytes) :
    Yields more ⟨source, .inMember {}⟩ content ↔ exists first after rest others,
      Deflate.decode? (source.ahead ++ more) = some (first, after) ∧
      afterTrailer? first after = some rest ∧ decode? (rest.dropWhile (· == 0)) = some others ∧
      content = first ++ others := by
  constructor
  · rintro ⟨output, padding, after, rest, others, short, finishes, trailer, decoded, same⟩
    exact ⟨output.toList, after, rest, others,
      (Deflate.decode?_iff _ _ _).mpr ⟨padding, short, finishes⟩, trailer, decoded, same⟩
  · rintro ⟨first, after, rest, others, found, trailer, decoded, same⟩
    rcases (Deflate.decode?_iff _ _ _).mp found with ⟨padding, short, finishes⟩
    exact ⟨first.toArray, padding, after, rest, others, short, finishes, trailer, decoded, same⟩

/-- In front of a member, a reader yields what it yields inside. -/
theorem yields_of_header {source after : Source}
    (header : afterHeader? (source.ahead ++ more) = some (after.ahead ++ more)) (content : Bytes) :
    Yields more ⟨source, .betweenMembers⟩ content ↔ Yields more ⟨after, .inMember {}⟩ content := by
  have nonempty : source.ahead ++ more ≠ [] := by
    intro empty
    rw [empty] at header
    cases header
  rw [yields_of_entered]
  refine (decode?_eq_some_iff nonempty).trans ⟨?_, ?_⟩
  · rintro ⟨first, rest, others, member, decoded, same⟩
    rcases member?_eq_some_iff.mp member with ⟨compressed, left, sameHeader, found, trailer⟩
    cases Option.some.inj (header.symm.trans sameHeader)
    exact ⟨first, left, rest, others, found, trailer, decoded, same⟩
  · rintro ⟨first, left, rest, others, found, trailer, decoded, same⟩
    exact ⟨first, rest, others, member?_eq_some_iff.mpr ⟨_, left, header, found, trailer⟩, decoded,
      same⟩

theorem enterMember_betweenMembers (bound : Nat) (source : Source) :
    enterMember bound ⟨source, .betweenMembers⟩ =
      (do
        let found <- onSource (readHeader bound)
        if found then modify fun reader => { reader with place := .inMember {} }
        return found : Attempt Reader Bool) ⟨source, .betweenMembers⟩ := rfl

theorem enterMember_ends (bound : Nat) {reader : Reader} (enough : reader.source.remaining < bound)
    (sound : reader.Sound failure more)
    (left : forall s, reader.place = .inMember s -> s.isDone = false) :
    Ends (enterMember bound reader)
      (fun found after => Gives failure more reader [] after ∧
        ((found = false ∧ forall content, reader.Yields more content ↔ content = []) ∨
        (found = true ∧ after.rounds ≤ reader.rounds ∧
          exists s, after.place = .inMember s ∧ s.isDone = false)))
      (fun error _ => reader.Refuses failure more error) := by
  rcases reader with ⟨source, place⟩
  cases place with
  | inMember s =>
      exact ⟨.refl sound, .inr ⟨rfl, Nat.le_refl _, s, rfl, left s rfl⟩⟩
  | betweenMembers =>
      rw [enterMember_betweenMembers]
      refine Ends.bind ((onSource_ends (readHeader_ends bound enough sound.serves sound.place)).mono
        ?_ ?_)
      · rintro found middle
          ⟨after, rfl, ⟨rfl, nothing, unfailing, takes⟩ | ⟨rfl, fewer, ⟨taken, takes⟩, header⟩⟩
        · have length := takes.length_eq
          have same : after.ahead = source.ahead := takes.ahead
          rw [List.length_nil, Nat.zero_add] at length
          have shows : after.Shows failure := Source.shows_of_nothing
            (same.trans (List.append_eq_nil_iff.mp nothing).1) unfailing
          refine ⟨⟨⟨takes.serves, shows⟩, Nat.le_of_eq length, ?_, .of_iff fun content => ?_⟩,
            .inl ⟨rfl, fun content => ?_⟩⟩
          · simp only [potential, length, List.length_nil, Nat.zero_add]
            exact Nat.le_refl _
          · simp only [Yields, same]
          · show decode? (source.ahead ++ more) = some content ↔ content = []
            rw [nothing, decode?_nil, Option.some.injEq, eq_comm]
        · have fewer : after.remaining + 10 ≤ source.remaining := fewer
          refine ⟨⟨⟨takes.serves, Deflate.Inflater.resting_start⟩, by dsimp only; omega, ?_,
            .of_iff (yields_of_header header)⟩, .inr ⟨rfl, ?_, {}, rfl, rfl⟩⟩
          · simp only [potential, maxMatch, List.length_nil]
            show 0 + (0 - 0 + 0 + 258 * (0 + 8 * after.remaining)) ≤ _
            omega
          · show after.remaining + 1 ≤ source.remaining
            omega
      · rintro error middle ⟨after, rfl, misses⟩
        rcases misses with failed | ⟨spoils, refused⟩
        · exact .inl failed
        · refine .inr ⟨spoils, fun content yields => ?_⟩
          exact Option.some_ne_none content (Eq.trans (Eq.symm yields) refused)

/-! ## Decompressing a piece -/

open Deflate.Inflater (Answer)

/-- What was decoded and not handed out yet begins with the piece that is handed out now. -/
theorem drop_of_handedOut {before : Nat} {piece : Bytes} {decoded whole : Bytes}
    (within : before + piece.length ≤ decoded.length) (begins : decoded <+: whole)
    (handedOut : decoded.take (before + piece.length) = decoded.take before ++ piece) :
    whole.drop before = piece ++ whole.drop (before + piece.length) := by
  rcases begins with ⟨rest, rfl⟩
  have split : (decoded ++ rest).take (before + piece.length) =
      (decoded ++ rest).take before ++ piece := by
    rw [List.take_append_of_le_length within, List.take_append_of_le_length (by omega), handedOut]
  have whole := List.take_append_drop (before + piece.length) (decoded ++ rest)
  rw [split, List.append_assoc] at whole
  have parts := List.take_append_drop before (decoded ++ rest)
  exact List.append_cancel_left (parts.trans whole.symm)

/-- Decompressing input takes the piece from what the reader yields. -/
theorem yields_of_answer {source after : Source} {s next : Inflater} {limit : Nat}
    {input piece left : Bytes} (answer : Answer s limit input piece next left)
    (before : source.ahead = input ++ after.ahead) (content : Bytes) :
    Yields more ⟨source, .inMember s⟩ content ↔ exists rest, content = piece ++ rest ∧
      Yields more ⟨{ after with pending := left ++ after.pending }, .inMember next⟩ rest := by
  have bits : source.ahead ++ more = input ++ (after.ahead ++ more) := by
    rw [before, List.append_assoc]
  have bitsAfter : Source.ahead { after with pending := left ++ after.pending } ++ more =
      left ++ (after.ahead ++ more) := by
    simp only [Source.ahead, List.append_assoc]
  have walk := answer.reaches (after.ahead ++ more)
  have resumed : forall output rest,
      Finishes (next.core, next.held ++ bitsOfBytes (left ++ (after.ahead ++ more))) output rest ->
      output.toList.drop s.delivered = piece ++ output.toList.drop next.delivered := by
    intro output rest finishes
    have within := answer.resting.delivered
    have handedOut := answer.handedOut
    rw [answer.delivered] at within handedOut ⊢
    exact drop_of_handedOut within finishes.output_extends handedOut
  simp only [Yields, bits, bitsAfter]
  constructor
  · rintro ⟨output, padding, bytes, rest, others, short, finishes, trailer, decoded, rfl⟩
    have later := (walk.finishes_iff output _).mp finishes
    refine ⟨_, ?_, output, padding, bytes, rest, others, short, later, trailer, decoded, rfl⟩
    rw [resumed output _ later, List.append_assoc]
  · rintro ⟨_, rfl, output, padding, bytes, rest, others, short, later, trailer, decoded, rfl⟩
    refine ⟨output, padding, bytes, rest, others, short, (walk.finishes_iff output _).mpr later,
      trailer, decoded, ?_⟩
    rw [resumed output _ later, List.append_assoc]

/-- Handing out a piece uses up as much of the potential. -/
theorem potential_of_answer {source after : Source} {s next : Inflater} {limit : Nat}
    {input piece left : Bytes} (answer : Answer s limit input piece next left) (resting : s.Resting)
    (before : source.remaining = input.length + after.remaining) :
    piece.length + potential ⟨{ after with pending := left ++ after.pending }, .inMember next⟩ ≤
      potential ⟨source, .inMember s⟩ := by
  have walk := (answer.reaches []).potential_le resting.fits
  have grown := walk.2
  have remaining : Source.remaining { after with pending := left ++ after.pending } =
      left.length + after.remaining := by
    simp only [Source.remaining, List.length_append]
    omega
  have delivered := answer.delivered
  have within := answer.resting.delivered
  have withinBefore := resting.delivered
  simp only [Deflate.Position.potential, Inflater.core, List.append_nil, List.length_append,
    Deflate.length_bitsOfBytes] at grown
  simp only [potential, remaining, before, maxMatch] at grown ⊢
  omega

/-- A member is followed by a trailer, so a reader inside of one needs bytes. -/
theorem not_yields_of_nothing {source : Source} {s : Inflater} (resting : s.Resting)
    (nothing : source.ahead ++ more = []) (content : Bytes) :
    ¬ Yields more ⟨source, .inMember s⟩ content := by
  rintro ⟨output, padding, after, rest, others, _, ⟨final, walk⟩, trailer, _, _⟩
  have fewer := Deflate.Position.Reaches.length_le walk
  have held := resting.held
  simp only [nothing, List.length_append, Deflate.length_bitsOfBytes, List.length_nil] at fewer
  unfold afterTrailer? at trailer
  split at trailer
  · rename_i fits
    have := length_of_isTrailer fits
    omega
  · cases trailer

/-- The machine is given input, and what it does not read is put back in front. -/
theorem decompress_eq (limit : Nat) (source : Source) (s : Inflater) :
    decompress limit ⟨source, .inMember s⟩ =
      match Source.read chunkSize source with
      | .error error source => .error error ⟨source, .inMember s⟩
      | .ok input source =>
          match s.inflate limit input with
          | (.error flaw, next, _) => .error (corrupt flaw) ⟨source, .inMember next⟩
          | (.ok piece, next, left) => .ok (piece, !input.isEmpty)
              ⟨{ source with pending := left ++ source.pending }, .inMember next⟩ := by
  rw [decompress]
  refine (bind_apply _ _ _).trans ?_
  rw [onSource]
  cases Source.read chunkSize source with
  | error error source => rfl
  | ok input source =>
      dsimp only
      rcases s.inflate limit input with ⟨result, next, left⟩
      cases result with
      | error flaw => rfl
      | ok piece => rfl

theorem decompress_ends {limit : Nat} (positive : 0 < limit) {reader : Reader} {s : Inflater}
    (sound : reader.Sound failure more) (inside : reader.place = .inMember s)
    (undone : s.isDone = false) :
    Ends (decompress limit reader)
      (fun result after => Gives failure more reader result.1 after ∧ result.1.length ≤ limit ∧
        (result.1 = [] -> if result.2 then after.rounds < reader.rounds
          else forall content, ¬ reader.Yields more content))
      (fun error _ => reader.Refuses failure more error) := by
  rcases reader with ⟨source, place⟩
  cases inside
  have resting : s.Resting := sound.place
  have reads := Source.read_ends sound.serves chunkSize
  rw [decompress_eq]
  cases read : Source.read chunkSize source with
  | error error after => exact .inl (reads.of_error read)
  | ok input after =>
      have brings := reads.of_ok read
      have split : source.ahead = input ++ after.ahead := brings.takes.ahead.symm
      have lengths : input.length + after.remaining = source.remaining := brings.takes.length_eq
      dsimp only
      cases inflated : s.inflate limit input with
      | mk result rest =>
          rcases rest with ⟨next, left⟩
          cases result with
          | error flaw =>
              refine Or.inr ⟨rfl, fun content yields => ?_⟩
              rcases yields with ⟨output, padding, bytes, rest, others, _, finishes, _⟩
              simp only [split, List.append_assoc] at finishes
              exact finishes.not_stuck (Inflater.inflate_stuck resting positive inflated _)
          | ok piece =>
              have answer := Inflater.inflate_answer resting positive inflated
              have walk := (answer.reaches []).length_le
              have held := resting.held
              simp only [List.append_nil, List.length_append, Deflate.length_bitsOfBytes] at walk
              have remaining : Source.remaining { after with pending := left ++ after.pending } =
                  left.length + after.remaining := by
                simp only [Source.remaining, List.length_append]
                omega
              refine ⟨⟨⟨brings.takes.serves, answer.resting⟩, ?_,
                potential_of_answer answer resting lengths.symm, yields_of_answer answer split⟩,
                answer.limited, fun nothing => ?_⟩
              · dsimp only
                omega
              · cases empty : input.isEmpty with
                | true =>
                    rw [List.isEmpty_iff] at empty
                    rcases (brings.exhausted empty).resolve_left (by decide) with
                      ⟨noneAhead, unfailing⟩
                    refine not_yields_of_nothing resting ?_
                    rw [noneAhead, sound.serves.whole unfailing]
                    rfl
                | false =>
                    rw [List.isEmpty_eq_false_iff] at empty
                    have positive := List.length_pos_iff.mpr empty
                    show Source.remaining _ + _ < source.remaining + _
                    rw [remaining, undone]
                    rcases answer.empty nothing with done | ⟨noneLeft, _, _⟩
                    · rw [isDone_iff.mpr done, if_pos rfl, if_neg Bool.false_ne_true]
                      omega
                    · rw [noneLeft, List.length_nil, if_neg Bool.false_ne_true]
                      split <;> omega

/-! ## Requests -/

/-- A request goes on until there is output.  Every round without output has fewer rounds before it,
so a request never ends for want of rounds. -/
theorem readRounds_ends (bound : Nat) {limit : Nat} (positive : 0 < limit) (rounds : Nat)
    {reader : Reader} (enough : reader.source.remaining < bound) (fewer : reader.rounds < rounds)
    (sound : reader.Sound failure more) :
    Ends (readRounds bound limit rounds reader)
      (fun piece after => Gives failure more reader piece after ∧ piece.length ≤ limit ∧
        (piece = [] -> forall content, reader.Yields more content ↔ content = []))
      (fun error _ => reader.Refuses failure more error) := by
  induction rounds generalizing reader with
  | zero => exact absurd fewer (Nat.not_lt_zero _)
  | succ rounds inductionHypothesis =>
      rw [readRounds]
      refine Ends.bind ((finishMember_ends bound enough sound).mono ?_ fun _ _ refuses => refuses)
      rintro _ second ⟨first, fewerSecond, left⟩
      have enoughSecond := Nat.lt_of_le_of_lt first.fewer enough
      refine Ends.bind ((enterMember_ends bound enoughSecond first.sound left).mono ?_
        fun _ _ refuses => first.refuses refuses)
      intro found third entered
      rcases entered with ⟨second, ⟨rfl, nothing⟩ | ⟨rfl, fewerThird, s, inside, undone⟩⟩
      · refine ⟨first.trans second, Nat.zero_le _, fun _ content => ?_⟩
        rw [first.yields.iff_of_nil, nothing]
      · have entered := first.trans second
        refine Ends.bind ((decompress_ends positive second.sound inside undone).mono ?_
          fun _ _ refuses => entered.refuses refuses)
        rintro ⟨piece, hadInput⟩ fourth ⟨third, limited, progress⟩
        have given := entered.trans third
        by_cases nothing : piece = []
        · subst nothing
          cases hadInput with
          | false => exact entered.refuses (.inr ⟨rfl, progress rfl⟩)
          | true =>
              have fewerFourth := progress rfl
              rw [if_pos rfl] at fewerFourth
              have enoughFourth := Nat.lt_of_le_of_lt given.fewer enough
              refine (inductionHypothesis enoughFourth (by omega) given.sound).mono ?_
                fun _ _ refuses => given.refuses refuses
              rintro last after ⟨gives, lastLimited, ended⟩
              refine ⟨given.trans gives, lastLimited, fun empty content => ?_⟩
              rw [given.yields.iff_of_nil, ended empty]
        · have some : (!piece.isEmpty) = true := by
            rw [Bool.not_eq_true', List.isEmpty_eq_false_iff]
            exact nothing
          simp only [some, if_true]
          exact ⟨given, limited, fun empty => absurd empty nothing⟩

/-- A request of positive size gives a piece, or nothing at the end of the content. -/
theorem read_ends {bound limit : Nat} (positive : 0 < limit) {reader : Reader}
    (enough : reader.source.remaining + 2 ≤ bound) (sound : reader.Sound failure more) :
    Ends (read bound limit reader)
      (fun piece after => Gives failure more reader piece after ∧ piece.length ≤ limit ∧
        (piece = [] -> forall content, reader.Yields more content ↔ content = []))
      (fun error _ => reader.Refuses failure more error) := by
  have few := reader.rounds_le
  rw [read, if_neg (Nat.ne_of_gt positive)]
  exact readRounds_ends bound positive bound (by omega) (by omega) sound

end Reader
end Gzip
end ObjectWatch
