import ObjectWatch.Proofs.Deflate.Format

/-!
# Where compressed data ends

Compressed data ends at a bit, and what follows it begins at a byte.  The bits in between are padding,
fewer than eight of them, so the bits that are left when the data has ended say which bytes follow.

A walk does not look beyond the bits that it takes.  Bytes that are added behind stay behind, so what
is decoded from the beginning of bytes is decoded from all of them.
-/

namespace ObjectWatch
namespace Deflate

open Position (Reaches Finishes Move)

/-! ## Bits and bytes -/

theorem bitsOfBytes_append (first second : Bytes) :
    bitsOfBytes (first ++ second) = bitsOfBytes first ++ bitsOfBytes second :=
  List.flatMap_append

theorem bitsOf_injective {first second : UInt8} (same : bitsOf first = bitsOf second) :
    first = second := by
  apply UInt8.toNat_inj.mp
  apply Nat.eq_of_testBit_eq
  intro place
  rcases Nat.lt_or_ge place 8 with low | high
  · have bits := congrArg (fun bits : Bits => bits[place]?) same
    simpa [bitsOf, List.getElem?_range low] using bits
  · have beyond : forall byte : UInt8, byte.toNat.testBit place = false := fun byte =>
      Nat.testBit_lt_two_pow
        (Nat.lt_of_lt_of_le byte.toNat_lt (Nat.pow_le_pow_right Nat.two_pos high))
    rw [beyond first, beyond second]

theorem bitsOfBytes_injective {first second : Bytes}
    (same : bitsOfBytes first = bitsOfBytes second) : first = second := by
  induction first generalizing second with
  | nil =>
      have lengths := congrArg List.length same
      rw [length_bitsOfBytes, length_bitsOfBytes, List.length_nil] at lengths
      exact (List.length_eq_zero_iff.mp (by omega)).symm
  | cons byte bytes inductionHypothesis =>
      cases second with
      | nil =>
          have lengths := congrArg List.length same
          rw [length_bitsOfBytes, length_bitsOfBytes, List.length_cons, List.length_nil] at lengths
          omega
      | cons other others =>
          rcases List.append_inj same (by rw [length_bitsOf, length_bitsOf]) with ⟨head, tail⟩
          rw [bitsOf_injective head, inductionHypothesis tail]

/-- The bytes after padding are determined by the bits. -/
theorem eq_of_padding {padding otherPadding : Bits} {bytes others : Bytes}
    (short : padding.length < 8) (otherShort : otherPadding.length < 8)
    (same : padding ++ bitsOfBytes bytes = otherPadding ++ bitsOfBytes others) : bytes = others := by
  have lengths := congrArg List.length same
  rw [List.length_append, List.length_append, length_bitsOfBytes, length_bitsOfBytes] at lengths
  rcases List.append_inj same (by omega) with ⟨_, rest⟩
  exact bitsOfBytes_injective rest

/-- What is left of bytes after some of their bits is padding and bytes. -/
theorem exists_padding (bytes : Bytes) {left : Bits} (ending : left <:+ bitsOfBytes bytes) :
    exists padding, padding.length < 8 ∧
      left = padding ++ bitsOfBytes (bytes.drop (bytes.length - left.length / 8)) := by
  have within := ending.length_le
  rw [length_bitsOfBytes] at within
  have split : bitsOfBytes bytes = bitsOfBytes (bytes.take (bytes.length - left.length / 8)) ++
      bitsOfBytes (bytes.drop (bytes.length - left.length / 8)) := by
    rw [← bitsOfBytes_append, List.take_append_drop]
  have whole : bitsOfBytes (bytes.drop (bytes.length - left.length / 8)) <:+ left := by
    refine List.suffix_of_suffix_length_le (by rw [split]; exact List.suffix_append _ _) ending ?_
    rw [length_bitsOfBytes, List.length_drop]
    omega
  rcases whole with ⟨padding, same⟩
  refine ⟨padding, ?_, same.symm⟩
  have lengths := congrArg List.length same
  rw [List.length_append, length_bitsOfBytes, List.length_drop] at lengths
  omega

/-! ## Adding bytes behind -/

namespace Position

/-- The bits that are left are the last ones of those there were. -/
theorem Move.suffix {first second : Position} (move : Move first second) : second.2 <:+ first.2 := by
  cases move with
  | perform s bits due => exact List.suffix_rfl
  | take s low rest takes => exact List.suffix_cons low rest
  | beginStored s bits skipped => exact List.suffix_rfl

theorem Reaches.suffix {first second : Position} (reaches : Reaches first second) :
    second.2 <:+ first.2 := by
  induction reaches with
  | refl => exact List.suffix_rfl
  | tail _ move inductionHypothesis => exact (Move.of_next move).suffix.trans inductionHypothesis

/-- A move stays the same move when bytes are added behind. -/
theorem next_append {s after : Inflater} {bits left : Bits}
    (move : next (s, bits) = some (after, left)) (more : Bytes) :
    next (s, bits ++ bitsOfBytes more) = some (after, left ++ bitsOfBytes more) := by
  rcases s with ⟨phase, final, output, delivered, held⟩
  cases phase with
  | done => cases move
  | failed flaw => cases move
  | literal codes byte => cases move; rfl
  | copy codes length distance => cases move; rfl
  | align =>
      cases bits with
      | nil => cases move
      | cons low rest =>
          have same : (low :: (rest ++ bitsOfBytes more)).length % 8 = (low :: rest).length % 8 := by
            simp only [List.length_cons, List.length_append, length_bitsOfBytes]
            omega
          by_cases whole : (low :: rest).length % 8 = 0
          · cases (if_pos whole).symm.trans move
            exact if_pos (same.trans whole)
          · cases (if_neg whole).symm.trans move
            exact if_neg (fun other => whole (same.symm.trans other))
  | _ =>
      cases bits with
      | nil => cases move
      | cons low rest => cases move; rfl

theorem Reaches.append {first second : Position} (reaches : Reaches first second) (more : Bytes) :
    Reaches (first.1, first.2 ++ bitsOfBytes more) (second.1, second.2 ++ bitsOfBytes more) := by
  induction reaches with
  | refl => exact .refl
  | tail _ move inductionHypothesis => exact inductionHypothesis.tail (next_append move more)

theorem Finishes.append {s : Inflater} {bits left : Bits} {output : Array UInt8}
    (finishes : Finishes (s, bits) output left) (more : Bytes) :
    Finishes (s, bits ++ bitsOfBytes more) output (left ++ bitsOfBytes more) := by
  rcases finishes with ⟨final, reaches⟩
  exact ⟨final, Reaches.append reaches more⟩

end Position

/-! ## The bytes after the data -/

/-- What is decoded is what the machine comes to, and the bytes that follow are those after the
padding. -/
theorem decode?_iff (bytes content rest : Bytes) :
    decode? bytes = some (content, rest) ↔ exists padding, padding.length < 8 ∧
      Finishes ({}, bitsOfBytes bytes) content.toArray (padding ++ bitsOfBytes rest) := by
  rw [decode?_eq_some_iff]
  constructor
  · rintro ⟨left, finishes, sameRest⟩
    rcases finishes with ⟨final, reaches⟩
    rcases exists_padding bytes (Position.Reaches.suffix reaches) with ⟨padding, short, same⟩
    subst sameRest
    exact ⟨padding, short, same ▸ ⟨final, reaches⟩⟩
  · rintro ⟨padding, short, finishes⟩
    rcases finishes with ⟨final, reaches⟩
    rcases exists_padding bytes (Position.Reaches.suffix reaches) with
      ⟨otherPadding, otherShort, same⟩
    exact ⟨_, ⟨final, reaches⟩, eq_of_padding short otherShort same⟩

theorem length_decode?_le {bytes content rest : Bytes} (decoded : decode? bytes = some (content, rest)) :
    rest.length ≤ bytes.length := by
  rcases (decode?_eq_some_iff bytes content rest).mp decoded with ⟨left, _, sameRest⟩
  rw [sameRest, List.length_drop]
  omega

/-- Bytes that follow do not change what is decoded. -/
theorem decode?_append {bytes content rest : Bytes} (decoded : decode? bytes = some (content, rest))
    (more : Bytes) : decode? (bytes ++ more) = some (content, rest ++ more) := by
  rcases (decode?_iff bytes content rest).mp decoded with ⟨padding, short, finishes⟩
  refine (decode?_iff (bytes ++ more) content (rest ++ more)).mpr ⟨padding, short, ?_⟩
  rw [bitsOfBytes_append, bitsOfBytes_append, ← List.append_assoc]
  exact finishes.append more

theorem decode?_nil : decode? [] = none := rfl

end Deflate
end ObjectWatch
