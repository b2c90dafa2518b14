import ObjectWatch.Proofs.Deflate.Codeword

/-!
# The symbols of a block

A symbol is a literal, the end of the block or the length of a match, which its distance follows.  The
machine copies a match byte by byte, the format appends it at once.
-/

namespace ObjectWatch
namespace Deflate

open FromBits (number)
open Inflater (inPhase)
open Position (Stuck)

variable {final : Bool} {output : Array UInt8} {bits : Bits}

/-! ## Spans and matches -/

theorem Performs.stuck_failed (final : Bool) (output : Array UInt8) (flaw : Flaw) (bits : Bits)
    {α : Type} {resume : α -> Inflater} :
    Performs (inPhase final output (.failed flaw), bits) failure resume :=
  .failure (.of_failed final output flaw bits)

/-- The length of a match, after its codeword. -/
theorem performs_length (codes : Codes) (symbol : Nat) (match_ : endOfBlock < symbol) :
    Performs (inPhase final output (.afterCodeword final symbol (.literal codes)), bits)
      (readSpan lengthSpans (symbol - endOfBlock - 1)) fun length =>
        inPhase final output (.nextDistance codes length) := by
  have noLiteral : ¬ symbol < endOfBlock := by omega
  have noEnd : ¬ symbol = endOfBlock := by omega
  rw [readSpan, Phase.afterCodeword, if_neg noLiteral, if_neg noEnd]
  cases lengthSpans[symbol - endOfBlock - 1]? with
  | none => exact .stuck_failed final output .literalCode bits
  | some span =>
      rcases span with ⟨base, extra⟩
      cases extra with
      | zero => exact .pure (fun length => inPhase final output (.nextDistance codes length)) base bits
      | succ extra =>
          refine (performs_field (.lengthExtra codes base) extra).bind fun value rest _ => ?_
          exact .pure (fun length => inPhase final output (.nextDistance codes length)) (base + value)
            rest

/-- The distance of a match, after its codeword. -/
theorem performs_distance (codes : Codes) (length symbol : Nat) :
    Performs (inPhase final output (.afterCodeword final symbol (.distance codes length)), bits)
      (readSpan distanceSpans symbol) fun distance =>
        inPhase final output (.copy codes length distance) := by
  rw [readSpan, Phase.afterCodeword]
  cases distanceSpans[symbol]? with
  | none => exact .stuck_failed final output .distanceCode bits
  | some span =>
      rcases span with ⟨base, extra⟩
      cases extra with
      | zero => exact .pure (fun distance => inPhase final output (.copy codes length distance)) base bits
      | succ extra =>
          refine (performs_field (.distanceExtra codes length base) extra).bind fun value rest _ => ?_
          exact .pure (fun distance => inPhase final output (.copy codes length distance))
            (base + value) rest

theorem distanceSpans_base_pos : forall span, span ∈ distanceSpans.toList -> 0 < span.base := by
  decide

theorem readSpan_distance_pos {symbol distance : Nat} {bits rest : Bits}
    (succeeded : readSpan distanceSpans symbol bits = some (distance, rest)) : 0 < distance := by
  unfold readSpan at succeeded
  cases found : distanceSpans[symbol]? with
  | none => rw [found] at succeeded; cases succeeded
  | some span =>
      have present : span ∈ distanceSpans.toList :=
        Array.mem_toList_iff.mpr (Array.mem_of_getElem? found)
      have positive := distanceSpans_base_pos span present
      rw [found] at succeeded
      rcases FromBits.of_bind_eq_some succeeded with ⟨more, middle, _, later⟩
      cases later
      omega

theorem matched_succ (output : Bytes) (length distance : Nat) :
    matched output (length + 1) distance = matched output length distance ++
      [output[output.length - distance + length % distance]?.getD 0] := by
  simp [matched, List.range_succ]

/-- The byte that a match repeats is periodic: it lies in front of the match or in its part that is
already there. -/
theorem getElem?_append_matched (output : Bytes) {distance : Nat} (positive : 0 < distance)
    (fits : distance ≤ output.length) (length : Nat) :
    (output ++ matched output length distance)[output.length + length - distance]? =
      output[output.length - distance + length % distance]? := by
  rcases Nat.lt_or_ge length distance with short | long
  · rw [Nat.mod_eq_of_lt short, List.getElem?_append_left (by omega)]
    congr 1
    omega
  · have place : output.length + length - distance - output.length = length - distance := by omega
    have inMatch : length - distance < length := by omega
    have before : output.length - distance + (length - distance) % distance < output.length := by
      have := Nat.mod_lt (length - distance) positive
      omega
    rw [List.getElem?_append_right (by omega), place, matched, List.getElem?_map,
      List.getElem?_range inMatch, Option.map_some, Nat.mod_eq_sub_mod long,
      List.getElem?_eq_getElem before]
    rfl

/-- A match copied byte by byte is the match of the format.  Copying runs into what it appended, so
the induction is on the bytes that are still to be copied, at any place of the match. -/
theorem copyBack_from (output : Array UInt8) {distance : Nat} (positive : 0 < distance)
    (fits : distance ≤ output.size) (missing copied : Nat) (current : Array UInt8)
    (soFar : current.toList = output.toList ++ matched output.toList copied distance) :
    (copyBack distance missing current).toList =
      output.toList ++ matched output.toList (copied + missing) distance := by
  induction missing generalizing copied current with
  | zero => exact soFar
  | succ missing inductionHypothesis =>
      have size : current.size = output.toList.length + copied := by
        rw [← Array.length_toList, soFar, List.length_append, length_matched]
      have repeats := getElem?_append_matched output.toList positive fits copied
      rw [copyBack, Nat.add_comm missing 1, ← Nat.add_assoc]
      refine inductionHypothesis (copied + 1) _ ?_
      rw [Array.toList_push, matched_succ, ← List.append_assoc, ← soFar, ← repeats, ← soFar, size,
        Array.getElem?_toList]

theorem copyBack_eq (output : Array UInt8) {distance : Nat} (positive : 0 < distance)
    (fits : distance ≤ output.size) (length : Nat) :
    copyBack distance length output =
      (output.toList ++ matched output.toList length distance).toArray := by
  have copied := copyBack_from output positive fits length 0 output (by simp [matched])
  rw [Nat.zero_add] at copied
  rw [← copied]

/-! ## The symbols of a block -/

/-- The symbols of a block up to its end.  A codeword takes a bit at least, so the rounds that the
bits allow are enough. -/
theorem performs_symbols (codes : Codes) (haveBits : codes.HaveBits) (rounds : Nat)
    (enough : bits.length ≤ rounds) :
    Performs (inPhase final output (.nextLiteral codes), bits)
      (readSymbols codes rounds output.toList) fun output =>
        inPhase final output.toArray (.afterBlock final) := by
  induction rounds generalizing output bits with
  | zero =>
      have empty : bits = [] := List.length_eq_zero_iff.mp (Nat.le_zero.mp enough)
      subst empty
      exact .failure (.of_next_eq_none rfl (fun impossible => by cases impossible))
  | succ rounds inductionHypothesis =>
      refine (performs_codeword (.literal codes) codes.literals haveBits.literals).bind
        fun symbol rest first => ?_
      have fewer : rest.length < bits.length := haveBits.literals.length_read_lt first
      have fewerFirst : rest.length ≤ rounds := by omega
      by_cases isLiteral : symbol < endOfBlock
      · rw [if_pos isLiteral, Phase.afterCodeword, if_pos isLiteral]
        have later := @inductionHypothesis (output.push (UInt8.ofNat symbol)) rest fewerFirst
        rw [Array.toList_push] at later
        exact .after (.of_next rfl) later rfl
      · rw [if_neg isLiteral]
        by_cases isEnd : symbol = endOfBlock
        · rw [if_pos isEnd, Phase.afterCodeword, if_neg isLiteral, if_pos isEnd]
          exact .pure (fun output : Bytes => inPhase final output.toArray (.afterBlock final))
            output.toList rest
        · rw [if_neg isEnd]
          have isMatch := Nat.lt_of_le_of_ne (Nat.not_lt.mp isLiteral) (Ne.symm isEnd)
          have lengthPerforms := @performs_length final output rest codes symbol isMatch
          refine lengthPerforms.bind fun length second lengthRead => ?_
          have fewerSecond := (lengthPerforms.reaches lengthRead).length_le
          refine (performs_codeword (.distance codes length) codes.distances
            haveBits.distances).bind fun place third placeRead => ?_
          have fewerThird := Code.length_read_le placeRead
          refine (performs_distance codes length place).bind fun distance fourth distanceRead => ?_
          have fewerFourth :=
            ((performs_distance codes length place).reaches distanceRead).length_le
          have positive := readSpan_distance_pos distanceRead
          refine .guard (fun far => ?_) (fun near => ?_)
          · refine (Stuck.of_failed final output .distanceTooFar fourth).before (.of_next ?_)
            have far : output.size < distance := far
            simp only [Position.next, Inflater.perform, if_pos far]
          · have fits : distance ≤ output.size := Nat.le_of_not_lt near
            have later := @inductionHypothesis (copyBack distance length output) fourth
              (Nat.le_trans fewerFourth (Nat.le_trans fewerThird
                (Nat.le_trans fewerSecond fewerFirst)))
            rw [copyBack_eq output positive fits length] at later
            refine .after (.of_next ?_) later rfl
            simp only [Position.next, Inflater.perform, if_neg (Nat.not_lt.mpr fits),
              copyBack_eq output positive fits length]

end Deflate
end ObjectWatch
