import ObjectWatch.Proofs.Deflate.Codeword

/-!
# The codes that a block transmits

A block transmits the lengths of its codes in a code of its own, the lengths of which come first.
-/

namespace ObjectWatch
namespace Deflate

open FromBits (number repeated)
open Inflater (inPhase)
open Position (Stuck)

variable {final : Bool} {output : Array UInt8} {bits : Bits}

/-! ## Transmitted codes -/

/-- What follows the lengths that were added, unless they are too many. -/
def admitted {α : Type} (wanted : Nat) (before : List Nat) (next : List Nat -> FromBits α)
    (added : List Nat) : FromBits α := do
  if wanted < before.length + added.length then failure
  next added

section Lengths

variable {α : Type} {sizes : Sizes} {code : Code} {before : Array Nat}
  {next : List Nat -> FromBits α} {resume : α -> Inflater}

/-- A length is repeated as often as the bits after its symbol say. -/
theorem performs_repeat (length base extra : Nat) (positive : 0 < base)
    (continued : forall added rest, 0 < added.length ->
      before.size + added.length ≤ sizes.total ->
      Performs (inPhase final output (.afterLengths sizes code (before ++ added.toArray)), rest)
        (next added) resume) :
    Performs
      (inPhase final output
        (.field (.repeatCount sizes code before (some length) base) (extra + 1) 0 0), bits)
      (number (extra + 1) >>= fun more =>
        admitted sizes.total before.toList next (List.replicate (base + more) length)) resume := by
  refine (performs_field _ extra).bind fun more rest _ => ?_
  have phase : Inflater.afterField final output
      (.repeatCount sizes code before (some length) base) more = inPhase final output
        (if sizes.total < before.size + (base + more) then .failed .lengthRepeat
        else .afterLengths sizes code (before ++ Array.replicate (base + more) length)) := rfl
  rw [phase, admitted, List.length_replicate, Array.length_toList]
  refine .guard (fun tooMany => ?_) (fun fits => ?_)
  · rw [if_pos tooMany]
    exact .of_failed final output .lengthRepeat rest
  · have fitsAll := continued (List.replicate (base + more) length) rest
      (by rw [List.length_replicate]; omega) (by rw [List.length_replicate]; omega)
    rw [if_neg fits, ← List.toArray_replicate]
    exact fitsAll

/-- The lengths that one symbol adds. -/
theorem performs_added (symbol : Nat) (room : before.size < sizes.total)
    (continued : forall added rest, 0 < added.length ->
      before.size + added.length ≤ sizes.total ->
      Performs (inPhase final output (.afterLengths sizes code (before ++ added.toArray)), rest)
        (next added) resume) :
    Performs (inPhase final output (.afterCodeword final symbol (.codeLength sizes code before)), bits)
      (addedLengths before.toList symbol >>= admitted sizes.total before.toList next) resume := by
  rw [addedLengths, Phase.afterCodeword]
  by_cases single : symbol < 16
  · have fits : ¬ sizes.total < before.toList.length + [symbol].length := by
      rw [Array.length_toList, List.length_singleton]
      omega
    rw [if_pos single, if_pos single, pure_bind, admitted, if_neg fits]
    exact continued [symbol] bits Nat.one_pos (by rw [List.length_singleton]; omega)
  rw [if_neg single, if_neg single]
  by_cases previous : symbol = 16
  · rw [if_pos previous, if_pos previous, Array.getLast?_toList]
    cases before.back? with
    | none =>
        -- the machine reads how often before it finds that there is nothing to repeat
        refine .of_none rfl ?_
        have count := @performs_field final output bits (.repeatCount sizes code before none 3) 1
        cases result : number 2 bits with
        | none => exact count.stuck result
        | some pair =>
            exact (Stuck.of_failed final output .lengthRepeat pair.2).before (count.reaches result)
    | some length =>
        simp only [bind_assoc, pure_bind]
        exact performs_repeat length 3 1 (by decide) continued
  rw [if_neg previous, if_neg previous]
  by_cases short : symbol = 17
  · rw [if_pos short, if_pos short]
    simp only [bind_assoc, pure_bind]
    exact performs_repeat 0 3 2 (by decide) continued
  · rw [if_neg short, if_neg short]
    simp only [bind_assoc, pure_bind]
    exact performs_repeat 0 11 6 (by decide) continued

end Lengths

/-- The lengths of the codes of a block. -/
theorem performs_lengths (sizes : Sizes) (code : Code) (hasBits : code.HasBits) (rounds : Nat)
    (before : Array Nat) (fits : before.size ≤ sizes.total)
    (enough : sizes.total ≤ before.size + rounds) :
    Performs (inPhase final output (.afterLengths sizes code before), bits)
      (readLengths code sizes.total rounds before.toList) fun lengths =>
        inPhase final output (.afterLengths sizes code lengths.toArray) := by
  induction rounds generalizing before bits with
  | zero =>
      have complete : before.toList.length = sizes.total := by
        rw [Array.length_toList]
        omega
      rw [readLengths, if_pos complete]
      exact .pure (fun lengths : List Nat =>
        inPhase final output (.afterLengths sizes code lengths.toArray)) before.toList bits
  | succ rounds inductionHypothesis =>
      rw [readLengths]
      by_cases complete : before.toList.length = sizes.total
      · rw [if_pos complete]
        exact .pure (fun lengths : List Nat =>
          inPhase final output (.afterLengths sizes code lengths.toArray)) before.toList bits
      · rw [Array.length_toList] at complete
        have room : before.size < sizes.total := by omega
        rw [Array.length_toList, if_neg complete, Phase.afterLengths, if_pos room]
        refine (performs_codeword (.codeLength sizes code before) code hasBits).bind
          fun symbol rest _ => ?_
        refine performs_added symbol room fun added rest positive within => ?_
        have size : (before ++ added.toArray).size = before.size + added.length := Array.size_append
        have later := @inductionHypothesis rest (before ++ added.toArray) (by omega)
          (by omega)
        rw [Array.toList_append] at later
        exact later

theorem length_of_readLengths {code : Code} {wanted rounds : Nat} {before lengths : List Nat}
    {bits rest : Bits} (succeeded : readLengths code wanted rounds before bits = some (lengths, rest)) :
    lengths.length = wanted := by
  induction rounds generalizing before bits with
  | zero =>
      rw [readLengths] at succeeded
      by_cases complete : before.length = wanted
      · rw [if_pos complete] at succeeded
        cases succeeded
        exact complete
      · rw [if_neg complete] at succeeded
        cases succeeded
  | succ rounds inductionHypothesis =>
      rw [readLengths] at succeeded
      by_cases complete : before.length = wanted
      · rw [if_pos complete] at succeeded
        cases succeeded
        exact complete
      · rw [if_neg complete] at succeeded
        rcases FromBits.of_bind_eq_some succeeded with ⟨symbol, second, _, succeeded⟩
        rcases FromBits.of_bind_eq_some succeeded with ⟨added, third, _, succeeded⟩
        by_cases tooMany : wanted < before.length + added.length
        · simp only [if_pos tooMany] at succeeded
          cases succeeded
        · simp only [if_neg tooMany] at succeeded
          exact inductionHypothesis succeeded

/-- The lengths of the length code, in their own order. -/
theorem performs_ordered (sizes : Sizes) (wanted missing : Nat) (read : Array Nat)
    (total : read.size + missing + 1 = wanted) :
    Performs (inPhase final output (.field (.orderedLength sizes wanted read) 3 0 0), bits)
      (repeated (number 3) (missing + 1)) fun more =>
        inPhase final output (.afterOrdered sizes (read ++ more.toArray)) := by
  induction missing generalizing read bits with
  | zero =>
      refine (performs_field (.orderedLength sizes wanted read) 2).bind fun value rest _ => ?_
      have phase : Inflater.afterField final output (.orderedLength sizes wanted read) value =
          inPhase final output (if (read.push value).size < wanted
            then .field (.orderedLength sizes wanted (read.push value)) 3 0 0
            else .afterOrdered sizes (read.push value)) := rfl
      have ended : ¬ (read.push value).size < wanted := by
        rw [Array.size_push]
        omega
      rw [phase, if_neg ended]
      exact .of_some rfl .refl
  | succ missing inductionHypothesis =>
      refine (performs_field (.orderedLength sizes wanted read) 2).bind fun value rest _ => ?_
      have phase : Inflater.afterField final output (.orderedLength sizes wanted read) value =
          inPhase final output (if (read.push value).size < wanted
            then .field (.orderedLength sizes wanted (read.push value)) 3 0 0
            else .afterOrdered sizes (read.push value)) := rfl
      have more : (read.push value).size < wanted := by
        rw [Array.size_push]
        omega
      rw [phase, if_pos more]
      refine (@inductionHypothesis rest (read.push value)
        (by rw [Array.size_push]; omega)).bind fun others last _ => ?_
      have same : (read ++ (value :: others).toArray) = read.push value ++ others.toArray := by
        apply Array.toList_inj.mp
        simp
      refine .of_some rfl ?_
      rw [same]

/-- The codes of a block after the sizes of their tables. -/
def readTables (sizes : Sizes) (count : Nat) : FromBits Codes := do
  let code <- accepted (Code.forLengths? (bySymbol (<- repeated (number 3) count)))
  let lengths <- readLengths code sizes.total sizes.total []
  if lengths[endOfBlock]?.getD 0 = 0 then failure
  let literals <- accepted (Code.forSymbols? (lengths.take sizes.literals))
  let distances <- accepted (Code.forSymbols? (lengths.drop sizes.literals))
  return ⟨literals, distances⟩

/-- The sizes of the tables are one field of the machine and three numbers of the format. -/
theorem readCodes_eq :
    readCodes = (do
      let value <- number 14
      let sizes : Sizes := ⟨value % 32 + 257, value / 32 % 32 + 1⟩
      if maxLiterals < sizes.literals ∨ maxDistances < sizes.distances then failure
      readTables sizes (value / 1024 + 4)) := by
  rw [show (14 : Nat) = 5 + (5 + 4) from rfl, FromBits.number_add, FromBits.number_add]
  simp only [bind_assoc, pure_bind]
  rw [readCodes]
  refine FromBits.number_bind_congr fun first firstFits => ?_
  refine FromBits.number_bind_congr fun second secondFits => ?_
  refine FromBits.number_bind_congr fun third thirdFits => ?_
  have firstFits : first < 32 := firstFits
  have secondFits : second < 32 := secondFits
  have power : Nat.pow 2 5 = 32 := rfl
  have low : (first + 32 * (second + 32 * third)) % 32 = first := by omega
  have middle : (first + 32 * (second + 32 * third)) / 32 % 32 = second := by omega
  have high : (first + 32 * (second + 32 * third)) / 1024 = third := by omega
  rw [power, low, middle, high]
  rfl

theorem of_accepted_bind_eq_some {α : Type} {code? : Option Code} {next : Code -> FromBits α}
    {bits : Bits} {result : α × Bits} (succeeded : (accepted code? >>= next) bits = some result) :
    exists code, code? = some code ∧ next code bits = some result := by
  cases code? with
  | none => cases succeeded
  | some code => exact ⟨code, rfl, succeeded⟩

theorem performs_accepted {α : Type} {start : Position} {code? : Option Code}
    {next : Code -> FromBits α} {resume : α -> Inflater} (refused : code? = none -> Stuck start)
    (continued : forall code, code? = some code -> Performs start (next code) resume) :
    Performs start (accepted code? >>= next) resume := by
  cases code? with
  | none => exact .of_none rfl (refused rfl)
  | some code => exact continued code rfl

/-- The codes of a block from their lengths, which are transmitted in a code of their own. -/
theorem performs_tables (sizes : Sizes) (nonempty : 0 < sizes.total) (missing : Nat) :
    Performs (inPhase final output (.field (.orderedLength sizes (missing + 1) #[]) 3 0 0), bits)
      (readTables sizes (missing + 1)) fun codes => inPhase final output (.nextLiteral codes) := by
  refine (performs_ordered sizes (missing + 1) missing #[] (by simp)).bind
    fun transmitted second _ => ?_
  rw [Array.empty_append, Phase.afterOrdered, List.toList_toArray]
  refine performs_accepted (fun refused => ?_) (fun code made => ?_)
  · rw [refused]
    exact .of_failed final output .codeLengthsSet second
  have start : Phase.codeword (.codeLength sizes code #[]) code = .afterLengths sizes code #[] :=
    (if_pos nonempty).symm
  rw [made]
  dsimp only
  rw [start]
  refine (performs_lengths sizes code (Code.hasBits_of_forLengths? made) sizes.total #[]
    (Nat.zero_le _) (Nat.le_add_left _ _)).bind fun lengths third lengthsRead => ?_
  have complete : ¬ lengths.toArray.size < sizes.total := by
    have := length_of_readLengths lengthsRead
    rw [List.size_toArray]
    omega
  rw [Phase.afterLengths, if_neg complete, List.getElem?_toArray]
  refine .guard (fun noEnd => ?_) (fun hasEnd => ?_)
  · rw [if_pos noEnd]
    exact .of_failed final output .missingEndOfBlock third
  rw [if_neg hasEnd, List.toList_toArray]
  dsimp only
  refine performs_accepted (fun refused => ?_) (fun literals literalsMade => ?_)
  · rw [refused]
    exact .of_failed final output .literalsSet third
  rw [literalsMade]
  refine performs_accepted (fun refused => ?_) (fun distances distancesMade => ?_)
  · rw [refused]
    exact .of_failed final output .distancesSet third
  rw [distancesMade]
  exact .pure (fun codes => inPhase final output (.nextLiteral codes)) ⟨literals, distances⟩ third

/-- The codes that a block transmits. -/
theorem performs_codes :
    Performs (inPhase final output (.field .tableSizes 14 0 0), bits) readCodes fun codes =>
      inPhase final output (.nextLiteral codes) := by
  rw [readCodes_eq]
  refine (performs_field .tableSizes 13).bind fun value rest _ => ?_
  have phase : Inflater.afterField final output .tableSizes value = inPhase final output
      (if maxLiterals < value % 32 + 257 ∨ maxDistances < value / 32 % 32 + 1
        then .failed .tooManySymbols
        else .field (.orderedLength ⟨value % 32 + 257, value / 32 % 32 + 1⟩ (value / 1024 + 4) #[])
          3 0 0) := rfl
  rw [phase]
  refine .guard (fun tooMany => ?_) (fun admissible => ?_)
  · rw [if_pos tooMany]
    exact .of_failed final output .tooManySymbols rest
  · rw [if_neg admissible]
    exact performs_tables _ (Nat.lt_of_lt_of_le (Nat.succ_pos _) (Nat.le_add_left _ _))
      (value / 1024 + 3)

theorem haveBits_of_readCodes {codes : Codes} {bits rest : Bits}
    (succeeded : readCodes bits = some (codes, rest)) : codes.HaveBits := by
  rw [readCodes_eq] at succeeded
  rcases FromBits.of_bind_eq_some succeeded with ⟨value, second, _, succeeded⟩
  rcases FromBits.of_guard_eq_some succeeded with ⟨_, succeeded⟩
  rcases FromBits.of_bind_eq_some succeeded with ⟨transmitted, third, _, succeeded⟩
  rcases of_accepted_bind_eq_some succeeded with ⟨code, _, succeeded⟩
  rcases FromBits.of_bind_eq_some succeeded with ⟨lengths, fourth, _, succeeded⟩
  rcases FromBits.of_guard_eq_some succeeded with ⟨_, succeeded⟩
  rcases of_accepted_bind_eq_some succeeded with ⟨literals, literalsMade, succeeded⟩
  rcases of_accepted_bind_eq_some succeeded with ⟨distances, distancesMade, succeeded⟩
  cases succeeded
  exact ⟨Code.hasBits_of_forSymbols? literalsMade, Code.hasBits_of_forSymbols? distancesMade⟩

end Deflate
end ObjectWatch
