import ObjectWatch.Proofs.Gzip.Reader
import ObjectWatch.Gzip.Stream

/-!
# The stream gives what the reader yields

The block in front of a reader only changes when bytes are handed out, not which.  What a stream
yields is what its block holds and then what its reader yields, and a read of any size takes its piece
from the front of that.
-/

namespace ObjectWatch
namespace Gzip

open Deflate (maxMatch)

variable {failure : Option Fault} {more : Bytes}

namespace Stream

/-- What a stream is going to give, when `more` follows what its body serves. -/
def Yields (more : Bytes) (stream : Stream) (content : Bytes) : Prop :=
  exists rest, content = stream.block ++ rest ∧ stream.reader.Yields more rest

theorem yields_splits (stream : Stream) :
    Splits (stream.Yields more) stream.block (stream.reader.Yields more) := fun _ => Iff.rfl

/-- A bound on what a stream is going to give. -/
def potential (stream : Stream) : Nat := stream.block.length + stream.reader.potential

/-- A stream after it gave a piece. -/
structure Gives (failure : Option Fault) (more : Bytes) (stream : Stream) (piece : Bytes)
    (after : Stream) : Prop where
  sound : after.reader.Sound failure more
  opened : after.closed = false
  potential : piece.length + after.potential ≤ stream.potential
  yields : Splits (stream.Yields more) piece (after.Yields more)

/-- Why a request fails: the body did, or there is nothing that the stream could give in full. -/
def Refuses (failure : Option Fault) (more : Bytes) (stream : Stream) (error : Fault) : Prop :=
  failure = some error ∨ error.spoilsOpening = true ∧ forall content, ¬ stream.Yields more content

variable {stream : Stream}

theorem Gives.refuses {after : Stream} {piece : Bytes} {error : Fault}
    (gives : Gives failure more stream piece after) (refuses : after.Refuses failure more error) :
    stream.Refuses failure more error := by
  rcases refuses with failed | ⟨spoils, nothing⟩
  · exact .inl failed
  · exact .inr ⟨spoils, gives.yields.nothing nothing⟩

/-- What the reader gives is handed out behind the block, up to any place, and kept from there on. -/
theorem gives_of_reader {after : Reader} {piece : Bytes}
    (gives : stream.reader.Gives failure more piece after) (opened : stream.closed = false)
    (count : Nat) :
    Gives failure more stream (stream.block ++ piece.take count)
      { stream with reader := after, block := piece.drop count } where
  sound := gives.sound
  opened := opened
  potential := by
    have := gives.potential
    simp only [potential, List.length_append, List.length_take, List.length_drop]
    omega
  yields := by
    have whole := stream.yields_splits.trans gives.yields
    rw [← List.take_append_drop count piece, ← List.append_assoc] at whole
    exact whole.keep

theorem yields_of_no_block {reader : Reader} {closed : Bool} (content : Bytes) :
    Yields more ⟨reader, [], closed⟩ content ↔ reader.Yields more content :=
  (yields_splits _).iff_of_nil content

theorem refuses_of_reader {error : Fault} (refuses : stream.reader.Refuses failure more error) :
    stream.Refuses failure more error := by
  rcases refuses with failed | ⟨spoils, nothing⟩
  · exact .inl failed
  · exact .inr ⟨spoils, stream.yields_splits.nothing nothing⟩

theorem onReader_ends {α : Type} {act : Attempt Reader α} {reader : Reader} {block : Bytes}
    {closed : Bool} {good : α -> Reader -> Prop} {bad : Fault -> Reader -> Prop}
    (ends : Ends (act reader) good bad) :
    Ends (onReader act ⟨reader, block, closed⟩)
      (fun value after => exists reader, after = ⟨reader, block, closed⟩ ∧ good value reader)
      (fun error after => exists reader, after = ⟨reader, block, closed⟩ ∧ bad error reader) := by
  rw [onReader]
  cases result : act reader with
  | ok value reader => exact ⟨reader, rfl, ends.of_ok result⟩
  | error error reader => exact ⟨reader, rfl, ends.of_error result⟩

theorem onReader_of_ok {α : Type} {act : Attempt Reader α} {reader after : Reader} {value : α}
    (ended : act reader = .ok value after) (block : Bytes) (closed : Bool) :
    onReader act ⟨reader, block, closed⟩ = .ok value ⟨after, block, closed⟩ := by
  rw [onReader, ended]

theorem joined_cons (piece : Bytes) (pieces : List Bytes) :
    joined (piece :: pieces) = joined pieces ++ piece := by
  simp only [joined, List.reverse_cons, List.flatten_append, List.flatten_cons, List.flatten_nil,
    List.append_nil]

/-! ## Blocks -/

/-- Whole blocks are read up to the end of the content, or until less than a block is wanted. -/
theorem readBlocks_ends (bound rounds wanted : Nat) (enoughRounds : wanted ≤ rounds)
    (got : List Bytes) {reader : Reader} (enough : reader.source.remaining + 2 ≤ bound)
    (sound : reader.Sound failure more) :
    Ends (readBlocks bound rounds wanted got reader)
      (fun result after => exists piece, joined result.1 = joined got ++ piece ∧
        reader.Gives failure more piece after ∧ piece.length + result.2.1 = wanted ∧
        if result.2.2 then forall content, after.Yields more content ↔ content = []
        else wholeBlocks result.2.1 = 0)
      (fun error _ => reader.Refuses failure more error) := by
  induction rounds generalizing wanted got reader with
  | zero =>
      have none : wanted = 0 := by omega
      subst none
      exact ⟨[], (List.append_nil _).symm, .refl sound, rfl, (by decide : wholeBlocks 0 = 0)⟩
  | succ rounds inductionHypothesis =>
      rw [readBlocks]
      by_cases few : wholeBlocks wanted = 0
      · rw [if_pos few]
        exact ⟨[], (List.append_nil _).symm, .refl sound, Nat.zero_add _, few⟩
      · rw [if_neg few]
        refine Ends.bind ((Reader.read_ends (Nat.pos_of_ne_zero few) enough sound).mono ?_
          fun _ _ refuses => refuses)
        rintro chunk middle ⟨gives, limited, ended⟩
        have whole : wholeBlocks wanted ≤ wanted := Nat.div_mul_le_self wanted blockSize
        by_cases empty : chunk = []
        · subst empty
          refine ⟨[], (List.append_nil _).symm, gives, Nat.zero_add _, fun content => ?_⟩
          rw [← gives.yields.iff_of_nil, ended rfl]
        · have nonempty : chunk.isEmpty = false := List.isEmpty_eq_false_iff.mpr empty
          have positive := List.length_pos_iff.mpr empty
          have fewer := gives.fewer
          simp only [nonempty, Bool.false_eq_true, if_false]
          refine (inductionHypothesis (wanted - chunk.length) (by omega) (chunk :: got) (by omega)
            gives.sound).mono ?_ fun _ _ refuses => gives.refuses refuses
          rintro ⟨pieces, left, hasEnded⟩ after ⟨piece, same, later, sizes, last⟩
          refine ⟨chunk ++ piece, ?_, gives.trans later, ?_, last⟩
          · rw [same, joined_cons, List.append_assoc]
          · rw [List.length_append]
            omega

/-- A block is filled with something, unless nothing is wanted or the content has ended. -/
theorem fillBlock_ends (bound rounds wanted room : Nat) (enoughRounds : wanted ≤ rounds)
    (enoughRoom : wanted ≤ room) (got : List Bytes) {reader : Reader}
    (enough : reader.source.remaining + 2 ≤ bound) (sound : reader.Sound failure more) :
    Ends (fillBlock bound rounds wanted got room reader)
      (fun pieces after => exists piece, joined pieces = joined got ++ piece ∧
        reader.Gives failure more piece after ∧
        (piece = [] -> wanted = 0 ∨ forall content, reader.Yields more content ↔ content = []))
      (fun error _ => reader.Refuses failure more error) := by
  induction rounds generalizing wanted room got reader with
  | zero => exact ⟨[], (List.append_nil _).symm, .refl sound, fun _ => .inl (by omega)⟩
  | succ rounds inductionHypothesis =>
      rw [fillBlock]
      by_cases none : wanted = 0
      · rw [if_pos none]
        exact ⟨[], (List.append_nil _).symm, .refl sound, fun _ => .inl none⟩
      · rw [if_neg none]
        have positive : 0 < room := by omega
        refine Ends.bind ((Reader.read_ends positive enough sound).mono ?_
          fun _ _ refuses => refuses)
        rintro chunk middle ⟨gives, limited, ended⟩
        by_cases empty : chunk = []
        · subst empty
          exact ⟨[], (List.append_nil _).symm, gives, fun _ => .inr (ended rfl)⟩
        · have nonempty : chunk.isEmpty = false := List.isEmpty_eq_false_iff.mpr empty
          have positive := List.length_pos_iff.mpr empty
          have fewer := gives.fewer
          simp only [nonempty, Bool.false_eq_true, if_false]
          refine (inductionHypothesis (wanted - chunk.length) (room - chunk.length) (by omega)
            (by omega) (chunk :: got) (by omega) gives.sound).mono ?_
            fun _ _ refuses => gives.refuses refuses
          rintro pieces after ⟨piece, same, later, _⟩
          refine ⟨chunk ++ piece, ?_, gives.trans later, fun nothing => ?_⟩
          · rw [same, joined_cons, List.append_assoc]
          · exact absurd (List.append_eq_nil_iff.mp nothing).1 empty

/-! ## Reads -/

theorem lt_of_wholeBlocks_eq_zero {size : Nat} (few : wholeBlocks size = 0) : size < blockSize := by
  simp only [wholeBlocks, blockSize] at few ⊢
  omega

/-- A read past the end of the block, the bytes of which were taken. -/
def readPast (size bound : Nat) (taken : Bytes) : Attempt Stream Bytes := do
  let (blocks, wanted, ended) <- onReader (readBlocks bound size (size - taken.length) [])
  if ended then return taken ++ joined blocks
  let filled := joined (<- onReader (fillBlock bound wanted wanted [] blockSize))
  modify fun stream => { stream with block := filled.drop wanted }
  return taken ++ joined blocks ++ filled.take wanted

theorem readUpTo_of_enough {size : Nat} (enough : size ≤ stream.block.length) :
    readUpTo size stream =
      .ok (stream.block.take size) { stream with block := stream.block.drop size } :=
  congrFun (if_pos enough) stream

theorem readUpTo_of_short {size : Nat} (short : ¬ size ≤ stream.block.length) :
    readUpTo size stream =
      readPast size stream.reader.bound stream.block { stream with block := [] } :=
  congrFun (if_neg short) stream

theorem readAll_eq (stream : Stream) :
    readAll stream =
      (onReader (drain stream.reader.bound (stream.outputBound + 1) []) >>= fun rest =>
        pure (stream.block ++ rest)) { stream with block := [] } := rfl

/-- A read past the block gives what the reader gives, and keeps what was not wanted of it. -/
theorem readPast_ends {size bound : Nat} (opened : stream.closed = false)
    (sound : stream.reader.Sound failure more)
    (enough : stream.reader.source.remaining + 2 ≤ bound) (short : stream.block.length < size) :
    Ends (readPast size bound stream.block { stream with block := [] })
      (fun piece after => stream.Gives failure more piece after ∧
        (piece = [] -> forall content, stream.Yields more content ↔ content = []))
      (fun error _ => stream.Refuses failure more error) := by
  rcases stream with ⟨reader, block, closed⟩
  rw [readPast]
  refine Ends.bind ((onReader_ends (readBlocks_ends bound size _ (Nat.sub_le _ _) [] enough
    sound)).mono ?_ ?_)
  · rintro ⟨blocks, wanted, ended⟩ _ ⟨middle, rfl, piece, same, gives, sizes, last⟩
    have joinedBlocks : joined blocks = piece := same
    subst joinedBlocks
    dsimp only at sizes last short
    cases ended with
    | true =>
        have given : Gives failure more ⟨reader, block, closed⟩ _ _ :=
          gives_of_reader gives opened (joined blocks).length
        rw [List.take_length, List.drop_length] at given
        refine ⟨given, fun nothing content => ?_⟩
        rcases List.append_eq_nil_iff.mp nothing with ⟨noBlock, noPiece⟩
        rw [noPiece] at gives
        subst noBlock
        rw [yields_of_no_block, gives.yields.iff_of_nil]
        exact last content
    | false =>
        have few := lt_of_wholeBlocks_eq_zero last
        have fewer := gives.fewer
        have enoughMiddle : middle.source.remaining + 2 ≤ bound :=
          Nat.le_trans (Nat.add_le_add_right fewer 2) enough
        refine Ends.bind ((onReader_ends (fillBlock_ends bound wanted wanted blockSize
          (Nat.le_refl _) (Nat.le_of_lt few) [] enoughMiddle gives.sound)).mono ?_ ?_)
        · rintro pieces _ ⟨after, rfl, filled, same, fills, empty⟩
          have joinedPieces : joined pieces = filled := same
          subst joinedPieces
          have given : Gives failure more ⟨reader, block, closed⟩ _ _ :=
            gives_of_reader (gives.trans fills) opened ((joined blocks).length + wanted)
          rw [List.take_length_add_append, List.drop_length_add_append, ← List.append_assoc] at given
          refine ⟨given, fun nothing content => ?_⟩
          rcases List.append_eq_nil_iff.mp nothing with ⟨noBlocks, noFilled⟩
          rcases List.append_eq_nil_iff.mp noBlocks with ⟨noBlock, noPiece⟩
          subst noBlock
          rw [noPiece] at gives sizes
          have some : ¬ wanted = 0 := by
            rw [List.length_nil] at sizes short
            omega
          have noneFilled : joined pieces = [] :=
            (List.take_eq_nil_iff.mp noFilled).resolve_left some
          rw [yields_of_no_block, gives.yields.iff_of_nil]
          exact (empty noneFilled).resolve_left some content
        · rintro error _ ⟨after, rfl, refuses⟩
          exact refuses_of_reader (gives.refuses refuses)
  · rintro error _ ⟨middle, rfl, refuses⟩
    exact refuses_of_reader refuses

/-- A read of positive size gives a piece, or nothing at the end of the content. -/
theorem readUpTo_ends {size : Nat} (positive : 0 < size) (opened : stream.closed = false)
    (sound : stream.reader.Sound failure more) :
    Ends (readUpTo size stream)
      (fun piece after => stream.Gives failure more piece after ∧
        (piece = [] -> forall content, stream.Yields more content ↔ content = []))
      (fun error _ => stream.Refuses failure more error) := by
  by_cases enough : size ≤ stream.block.length
  · rw [readUpTo_of_enough enough]
    have whole : Splits (stream.Yields more) stream.block (stream.reader.Yields more) :=
      stream.yields_splits
    rw [← List.take_append_drop size stream.block] at whole
    refine ⟨⟨sound, opened, ?_, whole.keep⟩, fun nothing => ?_⟩
    · simp only [potential, List.length_take, List.length_drop]
      omega
    · have size := List.length_take_of_le enough
      rw [nothing, List.length_nil] at size
      omega
  · rw [readUpTo_of_short enough]
    exact readPast_ends opened sound (Nat.le_refl _) (Nat.lt_of_not_le enough)

end Stream
end Gzip
end ObjectWatch
