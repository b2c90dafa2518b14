import ObjectWatch.Proofs.Deflate.Codeword

/-!
# The output of a walk

A walk only ever appends to the output, so what was decoded once stays the beginning of everything
that is decoded later.

A match is the most that a single bit can bring, and a match has 258 bytes at most.  The potential of
a position counts the output, what is due, and that much for every bit left.  It never grows, which
bounds the output of a walk before it is made.
-/

namespace ObjectWatch
namespace Deflate

/-- The longest match. -/
def maxMatch : Nat := 258

theorem prefix_push (output : Array UInt8) (byte : UInt8) :
    output.toList <+: (output.push byte).toList := by
  rw [Array.toList_push]
  exact List.prefix_append _ _

theorem prefix_copyBack (distance length : Nat) (output : Array UInt8) :
    output.toList <+: (copyBack distance length output).toList := by
  induction length generalizing output with
  | zero => exact List.prefix_rfl
  | succ length inductionHypothesis => exact (prefix_push output _).trans (inductionHypothesis _)

theorem size_copyBack (distance length : Nat) (output : Array UInt8) :
    (copyBack distance length output).size = output.size + length := by
  induction length generalizing output with
  | zero => rfl
  | succ length inductionHypothesis =>
      rw [copyBack, inductionHypothesis, Array.size_push]
      omega

namespace Inflater

theorem prefix_perform (s : Inflater) : s.output.toList <+: s.perform.output.toList := by
  rcases s with ⟨phase, final, output, delivered, held⟩
  cases phase with
  | literal codes byte => exact prefix_push output byte
  | copy codes length distance =>
      rw [perform]
      split
      · exact List.prefix_rfl
      · exact prefix_copyBack distance length output
  | _ => exact List.prefix_rfl

theorem prefix_step (low : Bool) (s : Inflater) :
    s.output.toList <+: (s.step low).output.toList := by
  rcases s with ⟨phase, final, output, delivered, held⟩
  cases phase with
  | field goal want got value =>
      by_cases more : got + 1 < want
      · simp only [step, if_pos more]
        exact List.prefix_rfl
      · simp only [step, if_neg more]
        exact List.prefix_rfl
  | stored left got value =>
      rw [step]
      split
      · exact List.prefix_rfl
      · exact prefix_push output _
  | _ => exact List.prefix_rfl

end Inflater

namespace Position

theorem Move.output_extends {first second : Position} (move : Move first second) :
    first.1.output.toList <+: second.1.output.toList := by
  cases move with
  | perform s bits due => exact s.prefix_perform
  | take s low rest takes => exact s.prefix_step low
  | beginStored s bits skipped => exact List.prefix_rfl

/-- What was decoded once stays. -/
theorem Reaches.output_extends {first second : Position} (reaches : Reaches first second) :
    first.1.output.toList <+: second.1.output.toList := by
  induction reaches with
  | refl => exact List.prefix_rfl
  | tail _ move inductionHypothesis => exact inductionHypothesis.trans (Move.of_next move).output_extends

theorem Finishes.output_extends {start : Position} {output : Array UInt8} {rest : Bits}
    (finishes : Finishes start output rest) : start.1.output.toList <+: output.toList := by
  rcases finishes with ⟨final, reaches⟩
  exact Reaches.output_extends reaches

end Position

/-! ## The potential of a position -/

namespace Phase

/-- No match that is being read or is due is longer than the longest one. -/
def Fits : Phase -> Prop
  | .field (.lengthExtra _ base) want got value =>
      got < want ∧ value < Nat.pow 2 got ∧ base + Nat.pow 2 want ≤ maxMatch + 1
  | .field (.distanceExtra _ length _) _ _ _ => length ≤ maxMatch
  | .codeword (.distance _ length) _ => length ≤ maxMatch
  | .copy _ length _ => length ≤ maxMatch
  | _ => True

/-- How much output is due at once. -/
def due : Phase -> Nat
  | .literal _ _ => 1
  | .copy _ length _ => length
  | _ => 0

theorem Fits.due_le {phase : Phase} (fits : phase.Fits) : phase.due ≤ maxMatch := by
  cases phase with
  | literal codes byte => exact (by decide : 1 ≤ maxMatch)
  | copy codes length distance => exact fits
  | _ => exact Nat.zero_le _

/-- A phase in which something begins: no match is too long, and no stored byte has begun. -/
def Fresh : Phase -> Prop
  | .stored _ got _ => got = 0
  | phase => phase.Fits

theorem Fresh.fits {phase : Phase} (fresh : phase.Fresh) : phase.Fits := by
  cases phase with
  | stored left got value => trivial
  | _ => exact fresh

theorem fresh_afterBlock (final : Bool) : (afterBlock final).Fresh := by
  cases final <;> trivial

theorem fresh_afterLengths (sizes : Sizes) (code : Code) (lengths : Array Nat) :
    (afterLengths sizes code lengths).Fresh := by
  simp only [afterLengths]
  repeat' split
  all_goals trivial

theorem lengthSpans_fit : forall span, span ∈ lengthSpans.toList ->
    span.base + Nat.pow 2 span.extra ≤ maxMatch + 1 := by
  decide

/-- After a codeword something new begins. -/
theorem fresh_afterCodeword (final : Bool) (symbol : Nat) (goal : Goal)
    (fits : forall code, (codeword goal code).Fits) : (afterCodeword final symbol goal).Fresh := by
  cases goal with
  | codeLength sizes code lengths =>
      unfold afterCodeword
      repeat' split
      · exact fresh_afterLengths _ _ _
      all_goals trivial
  | literal codes =>
      rw [afterCodeword]
      split
      · trivial
      split
      · exact fresh_afterBlock final
      cases found : lengthSpans[symbol - endOfBlock - 1]? with
      | none => trivial
      | some span =>
          have bounded := lengthSpans_fit span
            (Array.mem_toList_iff.mpr (Array.mem_of_getElem? found))
          rcases span with ⟨base, extra⟩
          cases extra with
          | zero => exact Nat.le_of_succ_le_succ bounded
          | succ extra => exact ⟨Nat.succ_pos extra, Nat.one_pos, bounded⟩
  | distance codes length =>
      rw [afterCodeword]
      cases distanceSpans[symbol]? with
      | none => trivial
      | some span =>
          rcases span with ⟨base, extra⟩
          cases extra with
          | zero => exact fits .missing
          | succ extra => exact fits .missing

/-- After a field something new begins. -/
theorem fresh_afterField (final : Bool) (goal : Field) (want got value : Nat)
    (fits : (field goal want got value).Fits) (low : Bool) (last : ¬ got + 1 < want) :
    (afterField final (value + Nat.pow 2 got * low.toNat) goal).Fresh := by
  cases goal with
  | blockHeader =>
      simp only [afterField]
      split <;> trivial
  | storedLength =>
      simp only [afterField]
      repeat' split
      · exact fresh_afterBlock final
      all_goals trivial
  | tableSizes =>
      simp only [afterField]
      split <;> trivial
  | orderedLength sizes wanted read =>
      simp only [afterField, afterOrdered]
      repeat' split
      all_goals trivial
  | repeatCount sizes code lengths repeated base =>
      simp only [afterField]
      repeat' split
      · trivial
      · trivial
      · exact fresh_afterLengths _ _ _
  | lengthExtra codes base =>
      rcases fits with ⟨more, bound, whole⟩
      have size : want = got + 1 := by omega
      have lowBound := Nat.mul_le_mul_left (Nat.pow 2 got) (Bool.toNat_le low)
      subst size
      show base + (value + Nat.pow 2 got * low.toNat) ≤ maxMatch
      rw [Nat.pow_eq, Nat.pow_succ] at whole
      rw [Nat.pow_eq] at bound lowBound ⊢
      omega
  | distanceExtra codes length base => exact fits

end Phase

namespace Inflater

theorem fits_perform (s : Inflater) (fits : s.phase.Fits) : s.perform.phase.Fits := by
  rcases s with ⟨phase, final, output, delivered, held⟩
  cases phase with
  | literal codes byte => trivial
  | copy codes length distance =>
      rw [perform]
      split <;> trivial
  | _ => exact fits

/-- Output that was due becomes output. -/
theorem size_perform_le (s : Inflater) :
    s.perform.output.size + s.perform.phase.due ≤ s.output.size + s.phase.due := by
  rcases s with ⟨phase, final, output, delivered, held⟩
  cases phase with
  | literal codes byte => exact Nat.le_of_eq (by rw [perform, Array.size_push]; rfl)
  | copy codes length distance =>
      rw [perform]
      split
      · exact Nat.le_add_right _ _
      · exact Nat.le_of_eq (by rw [size_copyBack]; rfl)
  | _ => exact Nat.le_refl _

/-- A bit of a codeword leads to another node, or to what the codeword stands for. -/
theorem fresh_step_codeword (low : Bool) {goal : Goal} {node : Code} {final : Bool}
    {output : Array UInt8} {delivered : Nat} {held : Bits} (fits : (Phase.codeword goal node).Fits) :
    (step low ⟨.codeword goal node, final, output, delivered, held⟩).phase.Fresh := by
  have anywhere : forall code, (Phase.codeword goal code).Fits := by
    intro code
    cases goal with
    | distance codes length => exact fits
    | _ => trivial
  simp only [step]
  split
  · trivial
  · exact Phase.fresh_afterCodeword _ _ goal anywhere
  · exact anywhere _

theorem fits_step (low : Bool) (s : Inflater) (fits : s.phase.Fits) : (s.step low).phase.Fits := by
  rcases s with ⟨phase, final, output, delivered, held⟩
  cases phase with
  | field goal want got value =>
      by_cases more : got + 1 < want
      · simp only [step, if_pos more, collected]
        cases goal with
        | lengthExtra codes base =>
            rcases fits with ⟨_, bound, whole⟩
            have lowBound := Nat.mul_le_mul_left (Nat.pow 2 got) (Bool.toNat_le low)
            refine ⟨more, ?_, whole⟩
            rw [Nat.pow_eq] at bound lowBound ⊢
            rw [Nat.pow_eq, Nat.pow_succ]
            omega
        | distanceExtra codes length base => exact fits
        | _ => trivial
      · simp only [step, if_neg more, collected]
        exact (Phase.fresh_afterField _ goal want got value fits low more).fits
  | codeword goal node => exact (fresh_step_codeword low fits).fits
  | stored left got value =>
      simp only [step]
      split
      · trivial
      · dsimp only
        split
        · exact (Phase.fresh_afterBlock final).fits
        · trivial
  | _ => exact fits

/-- A bit brings one byte at most and makes the longest match due at most, but not both. -/
theorem size_step_le (low : Bool) (s : Inflater) (fits : s.phase.Fits) :
    (s.step low).output.size + (s.step low).phase.due ≤ s.output.size + s.phase.due + maxMatch := by
  have due := (s.fits_step low fits).due_le
  rcases s with ⟨phase, final, output, delivered, held⟩
  cases phase with
  | field goal want got value =>
      have same : (step low ⟨.field goal want got value, final, output, delivered, held⟩).output =
          output := by
        by_cases more : got + 1 < want
        · simp only [step, if_pos more]
        · simp only [step, if_neg more]
      rw [same]
      exact Nat.add_le_add (Nat.le_add_right _ _) due
  | codeword goal node => exact Nat.add_le_add (Nat.le_add_right _ _) due
  | stored left got value =>
      by_cases more : got < 7
      · simp only [step, if_pos more]
        exact Nat.le_add_right _ _
      · have undue : (if left = 1 then Phase.afterBlock final else .stored (left - 1) 0 0).due = 0 := by
          split
          · cases final <;> rfl
          · rfl
        simp only [step, if_neg more, undue, Array.size_push]
        exact Nat.add_le_add_left (by decide : 1 ≤ maxMatch) output.size
  | _ => exact Nat.le_add_right _ _

end Inflater

namespace Position

/-- The output so far, what is due, and the longest match for every bit that is left. -/
def potential (position : Position) : Nat :=
  position.1.output.size + position.1.phase.due + maxMatch * position.2.length

theorem Move.fits {first second : Position} (move : Move first second)
    (fits : first.1.phase.Fits) : second.1.phase.Fits := by
  cases move with
  | perform s bits due => exact s.fits_perform fits
  | take s low rest takes => exact s.fits_step low fits
  | beginStored s bits skipped => trivial

theorem Move.potential_le {first second : Position} (move : Move first second)
    (fits : first.1.phase.Fits) : second.potential ≤ first.potential := by
  cases move with
  | perform s bits due => exact Nat.add_le_add_right s.size_perform_le _
  | take s low rest takes =>
      have grown := s.size_step_le low fits
      simp only [potential, List.length_cons, Nat.mul_succ]
      omega
  | beginStored s bits skipped => exact Nat.add_le_add_right (Nat.le_add_right _ _) _

/-- The potential never grows on a walk. -/
theorem Reaches.potential_le {first second : Position} (reaches : Reaches first second)
    (fits : first.1.phase.Fits) :
    second.1.phase.Fits ∧ second.potential ≤ first.potential := by
  induction reaches with
  | refl => exact ⟨fits, Nat.le_refl _⟩
  | tail _ move inductionHypothesis =>
      rcases inductionHypothesis with ⟨middleFits, fewer⟩
      have moved := Move.of_next move
      exact ⟨moved.fits middleFits, Nat.le_trans (moved.potential_le middleFits) fewer⟩

end Position

end Deflate
end ObjectWatch
