import ObjectWatch.Proofs.Deflate.Machine
import ObjectWatch.Deflate.Block

/-!
# Numbers and codewords

The machine collects the bits of a number one by one, and walks down a tree for a codeword.  The format
reads them as a whole.  Both take the same bits and come to the same value.
-/

namespace ObjectWatch
namespace Deflate

open FromBits (bit number)
open Inflater (inPhase)
open Position (Reaches Stuck)

variable {final : Bool} {output : Array UInt8} {bits : Bits}

/-! ## Numbers -/

namespace FromBits

theorem number_cons (size : Nat) (low : Bool) (rest : Bits) :
    number (size + 1) (low :: rest) =
      match number size rest with
      | none => none
      | some (high, rest) => some (low.toNat + 2 * high, rest) := by
  have first : bit (low :: rest) = some (low, rest) := rfl
  rw [number, bind_of_some first, bind_apply]
  cases number size rest with
  | none => rfl
  | some pair => rfl

/-- A number of two parts, the lower one first. -/
theorem number_add (first second : Nat) :
    number (first + second) = do
      let low <- number first
      let high <- number second
      return low + Nat.pow 2 first * high := by
  induction first with
  | zero =>
      simp only [number, pure_bind, Nat.pow_eq, Nat.pow_zero, Nat.one_mul, Nat.zero_add, bind_pure]
  | succ first inductionHypothesis =>
      rw [Nat.add_right_comm]
      simp only [number, inductionHypothesis, bind_assoc, pure_bind]
      congr
      funext low
      congr
      funext middle
      congr
      funext high
      congr 1
      simp only [Nat.pow_eq, Nat.pow_succ]
      rw [Nat.mul_add, Nat.mul_comm (2 ^ first) 2, Nat.mul_assoc, Nat.add_assoc]

/-- A number takes as many bits as its size says, and it fits into them. -/
theorem number_bounds {size value : Nat} {bits rest : Bits}
    (succeeded : number size bits = some (value, rest)) :
    value < Nat.pow 2 size ∧ rest.length + size = bits.length := by
  induction size generalizing value bits with
  | zero =>
      cases succeeded
      exact ⟨Nat.one_pos, rfl⟩
  | succ size inductionHypothesis =>
      cases bits with
      | nil => cases succeeded
      | cons low bits =>
          rw [number_cons] at succeeded
          cases high : number size bits with
          | none => rw [high] at succeeded; cases succeeded
          | some pair =>
              rcases pair with ⟨highValue, later⟩
              rw [high] at succeeded
              rcases Prod.mk.inj (Option.some.inj succeeded) with ⟨sameValue, sameRest⟩
              subst sameValue sameRest
              rcases inductionHypothesis high with ⟨bound, length⟩
              have lowBound := Bool.toNat_le low
              rw [Nat.pow_eq] at bound ⊢
              rw [Nat.pow_succ, List.length_cons]
              omega

/-- Only the values that fit into a number matter for what follows it. -/
theorem number_bind_congr {α : Type} {size : Nat} {first second : Nat -> FromBits α}
    (same : forall value, value < Nat.pow 2 size -> first value = second value) :
    (number size >>= first) = (number size >>= second) := by
  funext bits
  rw [bind_apply, bind_apply]
  cases result : number size bits with
  | none => rfl
  | some pair => exact congrFun (same pair.1 (number_bounds result).1) pair.2

end FromBits

/-- A machine that collects bits reads a number.  It is given by its states while it collects, of
which there are `want`, and by the state after the last bit. -/
theorem performs_number {want : Nat} {collect : Nat -> Nat -> Inflater} {ended : Nat -> Inflater}
    (waits : forall got value, Position.next (collect got value, []) = none)
    (undone : forall got value, (collect got value).phase ≠ .done)
    (goesOn : forall got value low rest, got + 1 < want ->
      Position.next (collect got value, low :: rest) =
        some (collect (got + 1) (value + Nat.pow 2 got * low.toNat), rest))
    (ends : forall got value low rest, got + 1 = want ->
      Position.next (collect got value, low :: rest) =
        some (ended (value + Nat.pow 2 got * low.toNat), rest))
    (missing got value : Nat) (total : got + missing + 1 = want) :
    Performs (collect got value, bits) (number (missing + 1)) fun more =>
      ended (value + Nat.pow 2 got * more) := by
  induction missing generalizing got value bits with
  | zero =>
      cases bits with
      | nil => exact .of_none rfl (.of_next_eq_none (waits got value) (undone got value))
      | cons low rest =>
          have read : number 1 (low :: rest) = some (low.toNat, rest) := rfl
          exact .of_some read (.of_next (ends got value low rest total))
  | succ missing inductionHypothesis =>
      cases bits with
      | nil => exact .of_none rfl (.of_next_eq_none (waits got value) (undone got value))
      | cons low rest =>
          have move : Reaches (collect got value, low :: rest) _ :=
            .of_next (goesOn got value low rest (by omega))
          have later := @inductionHypothesis rest (got + 1)
            (value + Nat.pow 2 got * low.toNat) (by omega)
          cases high : number (missing + 1) rest with
          | none =>
              refine .of_none ?_ ((later.stuck high).before move)
              rw [FromBits.number_cons, high]
          | some pair =>
              rcases pair with ⟨highValue, last⟩
              have read : number (missing + 1 + 1) (low :: rest) =
                  some (low.toNat + 2 * highValue, last) := by
                rw [FromBits.number_cons, high]
              refine .of_some read ?_
              · have sum : value + Nat.pow 2 got * (low.toNat + 2 * highValue) =
                    value + Nat.pow 2 got * low.toNat + Nat.pow 2 (got + 1) * highValue := by
                  simp only [Nat.pow_eq, Nat.pow_succ]
                  rw [Nat.mul_add, Nat.mul_assoc, Nat.add_assoc]
                rw [sum]
                exact move.trans (later.reaches high)

/-- The value of a number after one more bit. -/
theorem collected (low : Bool) (value got : Nat) :
    (if low then value + Nat.pow 2 got else value) = value + Nat.pow 2 got * low.toNat := by
  cases low <;> simp

/-- The state after a field with a value.  The header of a block also says whether it is the last. -/
def Inflater.afterField (final : Bool) (output : Array UInt8) (goal : Field) (value : Nat) :
    Inflater :=
  let final := match goal with
    | .blockHeader => value % 2 == 1
    | _ => final
  inPhase final output (.afterField final value goal)

/-- A field is a number. -/
theorem performs_field (goal : Field) (size : Nat) :
    Performs (inPhase final output (.field goal (size + 1) 0 0), bits) (number (size + 1))
      (Inflater.afterField final output goal) := by
  have performs := @performs_number bits (size + 1)
    (fun got value => inPhase final output (.field goal (size + 1) got value))
    (Inflater.afterField final output goal)
    (fun _ _ => rfl) (fun _ _ impossible => by cases impossible)
    (fun got value low rest more => by
      simp only [Position.next, Inflater.step, if_pos more, collected])
    (fun got value low rest last => by
      have ended : ¬ got + 1 < size + 1 := by omega
      simp only [Position.next, Inflater.step, if_neg ended, collected]
      rfl)
    size 0 0 (by omega)
  exact performs.resume_congr fun value => by
    simp only [Nat.pow_eq, Nat.pow_zero, Nat.one_mul, Nat.zero_add]

/-! ## Codewords -/

namespace Code

/-- A codeword takes at least one bit.  Only a tree whose root is a symbol would have one without. -/
def HasBits (code : Code) : Prop := forall value, code ≠ .symbol value

theorem hasBits_branch (zero one : Code) : (branch zero one).HasBits := by
  intro value impossible
  cases impossible

theorem hasBits_ofLengths (lengths : List Nat) : (ofLengths lengths).HasBits := by
  intro value impossible
  have positive : forall entry, entry ∈ ordered lengths -> entry.1 ≠ 0 := by
    intro entry present
    rcases List.mem_flatMap.mp present with ⟨length, inRange, found⟩
    have least := (List.mem_range'_1.mp inRange).1
    have same : entry.1 = length := by simpa using (List.mem_filter.mp found).2
    omega
  unfold ofLengths at impossible
  cases entries : ordered lengths with
  | nil =>
      rw [entries] at impossible
      cases impossible
  | cons entry rest =>
      rw [entries] at positive impossible
      have nonzero : entry.1 ≠ 0 := positive entry List.mem_cons_self
      rw [maxLength, grow, if_neg nonzero] at impossible
      cases impossible

theorem hasBits_of_forLengths? {lengths : List Nat} {code : Code}
    (made : forLengths? lengths = some code) : code.HasBits := by
  unfold forLengths? at made
  split at made
  · rw [← Option.some.inj made]
    exact hasBits_branch _ _
  · split at made
    · rw [← Option.some.inj made]
      exact hasBits_ofLengths lengths
    · cases made

theorem hasBits_of_forSymbols? {lengths : List Nat} {code : Code}
    (made : forSymbols? lengths = some code) : code.HasBits := by
  unfold forSymbols? at made
  split at made
  · rw [← Option.some.inj made]
    exact hasBits_branch _ _
  · split at made
    · rw [← Option.some.inj made]
      exact hasBits_ofLengths lengths
    · split at made
      · rw [← Option.some.inj made]
        exact hasBits_ofLengths lengths
      · cases made

theorem read_branch (zero one : Code) (low : Bool) (rest : Bits) :
    (branch zero one).read (low :: rest) = (if low then one.read else zero.read) rest := rfl

theorem length_read_le {code : Code} {bits rest : Bits} {value : Nat}
    (succeeded : code.read bits = some (value, rest)) : rest.length ≤ bits.length := by
  induction code generalizing bits with
  | missing => cases succeeded
  | symbol _ =>
      cases succeeded
      exact Nat.le_refl _
  | branch zero one zeroHypothesis oneHypothesis =>
      cases bits with
      | nil => cases succeeded
      | cons low bits =>
          rw [read_branch] at succeeded
          rw [List.length_cons]
          cases low with
          | false => exact Nat.le_succ_of_le (zeroHypothesis succeeded)
          | true => exact Nat.le_succ_of_le (oneHypothesis succeeded)

theorem HasBits.length_read_lt {code : Code} (hasBits : code.HasBits) {bits rest : Bits} {value : Nat}
    (succeeded : code.read bits = some (value, rest)) : rest.length < bits.length := by
  cases code with
  | missing => cases succeeded
  | symbol value => exact absurd rfl (hasBits value)
  | branch zero one =>
      cases bits with
      | nil => cases succeeded
      | cons low bits =>
          rw [read_branch] at succeeded
          rw [List.length_cons]
          cases low with
          | false => exact Nat.lt_succ_of_le (length_read_le succeeded)
          | true => exact Nat.lt_succ_of_le (length_read_le succeeded)

end Code

/-- Both codes of a block have bits in their codewords. -/
structure Codes.HaveBits (codes : Codes) : Prop where
  literals : codes.literals.HasBits
  distances : codes.distances.HasBits

theorem haveBits_fixedCodes : fixedCodes.HaveBits :=
  ⟨Code.hasBits_ofLengths _, Code.hasBits_ofLengths _⟩

/-- One step down the tree.  A symbol below is where the codeword ends, anything else is walked down
further. -/
theorem performs_step_down (goal : Goal) {code child : Code} {low : Bool} {rest : Bits}
    (follows : code.follow low = child) (reads : code.read (low :: rest) = child.read rest)
    (performs : child.HasBits -> Performs (inPhase final output (.codeword goal child), rest)
      child.read fun symbol => inPhase final output (.afterCodeword final symbol goal)) :
    Performs (inPhase final output (.codeword goal code), low :: rest) code.read fun symbol =>
      inPhase final output (.afterCodeword final symbol goal) := by
  cases child with
  | missing =>
      refine .of_none reads
        ((Stuck.of_failed final output (Phase.flawOf goal) rest).before (.of_next ?_))
      simp only [Position.next, Inflater.step, follows]
  | symbol value =>
      refine .of_some reads (.of_next ?_)
      simp only [Position.next, Inflater.step, follows]
  | branch left right =>
      refine .after (.of_next ?_) (performs (Code.hasBits_branch left right)) reads
      simp only [Position.next, Inflater.step, follows]

/-- A codeword is a way down the tree. -/
theorem performs_codeword (goal : Goal) (code : Code) (hasBits : code.HasBits) :
    Performs (inPhase final output (.codeword goal code), bits) code.read fun symbol =>
      inPhase final output (.afterCodeword final symbol goal) := by
  induction code generalizing bits with
  | missing =>
      refine .of_none rfl ?_
      cases bits with
      | nil => exact .of_next_eq_none rfl (fun impossible => by cases impossible)
      | cons low rest =>
          exact (Stuck.of_failed final output (Phase.flawOf goal) rest).before (.of_next rfl)
  | symbol value => exact absurd rfl (hasBits value)
  | branch zero one zeroHypothesis oneHypothesis =>
      cases bits with
      | nil => exact .of_none rfl (.of_next_eq_none rfl (fun impossible => by cases impossible))
      | cons low rest =>
          cases low with
          | false => exact performs_step_down goal rfl rfl zeroHypothesis
          | true => exact performs_step_down goal rfl rfl oneHypothesis

end Deflate
end ObjectWatch
