import ObjectWatch.Proofs.Gzip.Opening

/-!
# Streaming is exact

Opening a body fills a block, and reading hands out pieces of any size until one is empty.  The pieces
together are what the format says that the body stands for, and if the format refuses the body, either
opening it or one of the reads fails.  Where members, pieces and blocks begin makes no difference.
-/

namespace ObjectWatch
namespace Gzip

variable {failure : Option Fault} {more : Bytes}

namespace Stream

variable {stream : Stream}

/-! ## Reading to the end -/

/-- Read pieces of the given sizes until one is empty.  The answer is all of them together, or nothing
if there were more pieces than rounds. -/
def readToEnd (sizes : Nat -> Nat) : (rounds turn : Nat) -> Attempt Stream (Option Bytes)
  | 0, _ => return none
  | rounds + 1, turn => do
      let piece <- read (sizes turn)
      if piece = [] then return some []
      return (<- readToEnd sizes rounds (turn + 1)).map (piece ++ ·)

theorem read_of_inRange {size : Int} (inRange : -1 ≤ size) (opened : stream.closed = false) :
    read size stream = (if size = -1 then readAll else readUpTo size.toNat) stream := by
  have allowed : ¬ size < -1 := Int.not_lt.mpr inRange
  rw [read]
  refine (bind_apply _ _ _).trans ?_
  rw [get_apply]
  simp only [opened, Bool.false_eq_true, if_false, allowed]

theorem read_of_positive {size : Nat} (positive : 0 < size) (opened : stream.closed = false) :
    read size stream = readUpTo size stream := by
  have notAll : ¬ (size : Int) = -1 := by omega
  rw [read_of_inRange (by omega) opened, if_neg notAll, Int.toNat_natCast]

/-- The pieces up to the end are all that the stream yields.  The potential bounds their number. -/
theorem readToEnd_ends {sizes : Nat -> Nat} (positive : forall turn, 0 < sizes turn) (rounds turn : Nat)
    (opened : stream.closed = false) (sound : stream.reader.Sound failure more) :
    Ends (readToEnd sizes rounds turn stream)
      (fun result _ => (stream.potential < rounds -> result ≠ none) ∧ forall content,
        result = some content -> forall other, stream.Yields more other ↔ other = content)
      (fun error _ => stream.Refuses failure more error) := by
  induction rounds generalizing turn stream with
  | zero => exact ⟨fun impossible => absurd impossible (Nat.not_lt_zero _), fun _ same => by cases same⟩
  | succ rounds inductionHypothesis =>
      rw [readToEnd]
      refine Ends.bind ?_
      rw [read_of_positive (positive turn) opened]
      refine (readUpTo_ends (positive turn) opened sound).mono ?_ fun _ _ refuses => refuses
      rintro piece middle ⟨gives, ended⟩
      by_cases nothing : piece = []
      · rw [if_pos nothing]
        refine ⟨fun _ impossible => (by cases impossible), fun content same other => ?_⟩
        cases same
        exact ended nothing other
      · rw [if_neg nothing]
        have positivePiece := List.length_pos_iff.mpr nothing
        have used := gives.potential
        refine Ends.bind ((inductionHypothesis (turn + 1) gives.opened gives.sound).mono ?_ ?_)
        · rintro result after ⟨ends, yields⟩
          cases result with
          | none =>
              refine ⟨fun enough => ?_, fun content impossible => (by cases impossible)⟩
              exact absurd rfl (ends (by omega))
          | some rest =>
              refine ⟨fun _ impossible => (by cases impossible), fun content same => ?_⟩
              cases same
              exact gives.yields.only (yields rest rfl)
        · intro error after refuses
          exact gives.refuses refuses

/-- There is an answer after more rounds than the potential. -/
theorem readToEnd_of_enough {sizes : Nat -> Nat} (positive : forall turn, 0 < sizes turn) {rounds : Nat}
    (enough : stream.potential < rounds) (opened : stream.closed = false)
    (sound : stream.reader.Sound failure more) :
    Ends (readToEnd sizes rounds 0 stream)
      (fun result _ => exists content, result = some content ∧
        forall other, stream.Yields more other ↔ other = content)
      (fun error _ => stream.Refuses failure more error) := by
  refine (readToEnd_ends positive rounds 0 opened sound).mono ?_ fun _ _ refuses => refuses
  intro result after answer
  rcases answer with ⟨ends, exact⟩
  cases result with
  | none => exact absurd rfl (ends enough)
  | some content => exact ⟨content, rfl, exact content rfl⟩

end Stream

/-- Streaming is exact.  A body without a failure that shows two bytes at first is opened and read to
its end, in pieces of any sizes, with exactly the content that the format gives its bytes. -/
theorem streaming_exact (body : Body) (opened : body.closed = false) (unfailing : body.failure = none)
    (showsTwo : 2 ≤ body.capped 2)
    (sizes : Nat -> Nat) (positive : forall turn, 0 < sizes turn) (content : Bytes) :
    (exists stream rounds after, openBody body = .ok stream ∧
      stream.readToEnd sizes rounds 0 = .ok (some content) after) ↔
      decode? body.rest = some content := by
  have serves : body.Serves none [] :=
    ⟨opened, unfailing, Body.flows_of_showsTwo showsTwo, fun _ => rfl⟩
  have shows : body.Shows none := .inr ⟨showsTwo, .inl rfl⟩
  constructor
  · rintro ⟨stream, rounds, after, opens, reads⟩
    have gives := Stream.openBody_ok serves shows opens
    have ends := Stream.readToEnd_ends positive rounds 0 gives.opened gives.sound
    have yields := ((ends.of_ok reads).2 content rfl content).mpr rfl
    rw [gives.yields_iff, List.append_nil] at yields
    exact yields
  · intro decoded
    have whole : decode? (body.rest ++ []) = some content := by rw [List.append_nil, decoded]
    rcases Stream.openBody_of_decode? serves shows whole with ⟨stream, opens⟩
    have gives := Stream.openBody_ok serves shows opens
    have yields := (gives.yields_iff content).mpr whole
    have ends := Stream.readToEnd_of_enough positive (Nat.lt_succ_self _) gives.opened gives.sound
    refine ⟨stream, stream.potential + 1, ?_⟩
    cases reads : stream.readToEnd sizes (stream.potential + 1) 0 with
    | error error after =>
        rcases ends.of_error reads with failed | ⟨_, nothing⟩
        · cases failed
        · exact absurd yields (nothing content)
    | ok result after =>
        rcases ends.of_ok reads with ⟨found, same, exact⟩
        rw [(exact content).mp yields, same]
        exact ⟨after, opens, rfl⟩

/-- A member that stores one letter. -/
def letterMember : Bytes :=
  magic ++ [deflateMethod, 0, 0, 0, 0, 0, 0, 255] ++ [1, 1, 0, 254, 255, 97] ++
    [67, 190, 183, 232, 1, 0, 0, 0]

/-- Two members with padding between them, from a body that serves three bytes at once. -/
theorem streaming_exact_two_members :
    exists stream rounds after,
      openBody { rest := letterMember ++ [0, 0] ++ letterMember, readCap := some 3 } = .ok stream ∧
      stream.readToEnd (fun turn => turn + 1) rounds 0 = .ok (some [97, 97]) after := by
  refine (streaming_exact { rest := _, readCap := some 3 } rfl rfl ?_ _ ?_ [97, 97]).mpr ?_
  · decide
  · exact fun turn => Nat.succ_pos turn
  · decide +kernel

/-- A body that stands for nothing cannot be opened, or some read of it fails as content that is not
gzip does. -/
theorem streaming_refuses (body : Body) (opened : body.closed = false)
    (unfailing : body.failure = none) (showsTwo : 2 ≤ body.capped 2)
    (sizes : Nat -> Nat) (positive : forall turn, 0 < sizes turn)
    (refused : decode? body.rest = none) :
    (exists failed, openBody body = .error failed) ∨
      exists stream rounds fault after, openBody body = .ok stream ∧
        stream.readToEnd sizes rounds 0 = .error fault after ∧ fault.spoilsOpening = true := by
  have serves : body.Serves none [] :=
    ⟨opened, unfailing, Body.flows_of_showsTwo showsTwo, fun _ => rfl⟩
  cases opens : openBody body with
  | error failed => exact .inl ⟨failed, rfl⟩
  | ok stream =>
      have gives := Stream.openBody_ok serves (.inr ⟨showsTwo, .inl rfl⟩) opens
      have nothing : forall content, ¬ stream.Yields [] content := by
        intro content yields
        rw [gives.yields_iff, List.append_nil, refused] at yields
        cases yields
      have ends := Stream.readToEnd_of_enough positive (Nat.lt_succ_self _) gives.opened gives.sound
      refine .inr ⟨stream, stream.potential + 1, ?_⟩
      cases reads : stream.readToEnd sizes (stream.potential + 1) 0 with
      | error fault after =>
          rcases ends.of_error reads with failed | ⟨spoils, _⟩
          · cases failed
          · exact ⟨fault, after, rfl, rfl, spoils⟩
      | ok result after =>
          rcases ends.of_ok reads with ⟨found, _, exact⟩
          exact absurd ((exact found).mpr rfl) (nothing found)

end Gzip
end ObjectWatch
