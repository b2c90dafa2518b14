import ObjectWatch.Proofs.Deflate.Symbols
import ObjectWatch.Proofs.Deflate.Tables

/-!
# The decompressor follows the format

A block is stored or consists of symbols.  Put together from its parts, the machine comes to its end
on exactly those bits from which the format can be read, with the same output.
-/

namespace ObjectWatch
namespace Deflate

open FromBits (number align repeated)
open Inflater (inPhase)
open Position (Stuck Finishes)

variable {final : Bool} {output : Array UInt8} {bits : Bits}

/-! ## Stored blocks -/

/-- The rest of a byte is skipped, and what follows needs bits. -/
theorem performs_align {α : Type} {read : FromBits α} {resume : α -> Inflater}
    (needsBits : read [] = none)
    (continued : forall rest,
      Performs (inPhase final output (.field .storedLength 32 0 0), rest) read resume) :
    Performs (inPhase final output .align, bits) (align >>= fun _ => read) resume := by
  have skips : forall bits, (align >>= fun _ => read) bits = read (bits.drop (bits.length % 8)) :=
    fun _ => rfl
  induction bits with
  | nil =>
      exact .of_none needsBits (.of_next_eq_none rfl (fun impossible => by cases impossible))
  | cons low rest inductionHypothesis =>
      by_cases whole : (low :: rest).length % 8 = 0
      · refine .after (.of_next (if_pos whole)) (continued (low :: rest)) ?_
        rw [skips, whole, List.drop_zero]
      · refine .after (.of_next (if_neg whole)) inductionHypothesis ?_
        have left : (low :: rest).length % 8 = rest.length % 8 + 1 := by
          rw [List.length_cons] at whole ⊢
          omega
        rw [skips, skips, left, List.drop_succ_cons]

/-- A stored byte. -/
theorem performs_stored_byte (left : Nat) :
    Performs (inPhase final output (.stored left 0 0), bits) (number 8) fun value =>
      inPhase final (output.push (UInt8.ofNat value))
        (if left = 1 then .afterBlock final else .stored (left - 1) 0 0) := by
  have performs := @performs_number bits 8
    (fun got value => inPhase final output (.stored left got value))
    (fun value => inPhase final (output.push (UInt8.ofNat value))
      (if left = 1 then .afterBlock final else .stored (left - 1) 0 0))
    (fun _ _ => rfl) (fun _ _ impossible => by cases impossible)
    (fun got value low rest more => by
      have more : got < 7 := by omega
      simp only [Position.next, Inflater.step, if_pos more, collected])
    (fun got value low rest last => by
      have ended : ¬ got < 7 := by omega
      simp only [Position.next, Inflater.step, if_neg ended, collected])
    7 0 0 rfl
  exact performs.resume_congr fun value => by
    simp only [Nat.pow_eq, Nat.pow_zero, Nat.one_mul, Nat.zero_add]

/-- The bytes of a stored block. -/
theorem performs_stored_bytes (missing : Nat) :
    Performs (inPhase final output (.stored (missing + 1) 0 0), bits)
      (repeated (number 8) (missing + 1)) fun values =>
        inPhase final (output ++ (values.map UInt8.ofNat).toArray) (.afterBlock final) := by
  induction missing generalizing output bits with
  | zero =>
      refine (performs_stored_byte 1).bind fun value rest _ => ?_
      rw [if_pos rfl]
      exact .of_some rfl .refl
  | succ missing inductionHypothesis =>
      refine (performs_stored_byte (missing + 1 + 1)).bind fun value rest _ => ?_
      rw [if_neg (by omega), Nat.add_sub_cancel]
      refine (@inductionHypothesis (output.push (UInt8.ofNat value)) rest).bind
        fun values last _ => ?_
      have same : output.push (UInt8.ofNat value) ++ (values.map UInt8.ofNat).toArray =
          output ++ ((value :: values).map UInt8.ofNat).toArray := by
        apply Array.toList_inj.mp
        simp
      rw [same]
      exact .of_some rfl .refl

/-- The length of a stored block and its complement are one field of the machine and two numbers of
the format. -/
theorem readStored_eq :
    readStored = align >>= fun _ => (do
      let value <- number 32
      if value % 0x10000 + value / 0x10000 ≠ 0xffff then failure
      return (<- repeated (number 8) (value % 0x10000)).map UInt8.ofNat) := by
  rw [show (32 : Nat) = 16 + 16 from rfl, FromBits.number_add]
  simp only [bind_assoc, pure_bind]
  rw [readStored]
  congr
  funext _
  refine FromBits.number_bind_congr fun first firstFits => ?_
  have firstFits : first < 0x10000 := firstFits
  have power : Nat.pow 2 16 = 0x10000 := rfl
  congr
  funext second
  have low : (first + 0x10000 * second) % 0x10000 = first := by omega
  have high : (first + 0x10000 * second) / 0x10000 = second := by omega
  rw [power, low, high]

theorem performs_stored :
    Performs (inPhase final output .align, bits) readStored fun bytes =>
      inPhase final (output ++ bytes.toArray) (.afterBlock final) := by
  rw [readStored_eq]
  refine performs_align rfl fun rest => ?_
  refine (performs_field .storedLength 31).bind fun value second _ => ?_
  have phase : Inflater.afterField final output .storedLength value = inPhase final output
      (if value % 0x10000 + value / 0x10000 = 0xffff then
        if value % 0x10000 = 0 then .afterBlock final else .stored (value % 0x10000) 0 0
      else .failed .storedLengths) := rfl
  rw [phase]
  refine .guard (fun differs => ?_) (fun agrees => ?_)
  · rw [if_neg differs]
    exact .of_failed final output .storedLengths second
  rw [if_pos (Decidable.not_not.mp agrees)]
  cases value % 0x10000 with
  | zero =>
      rw [if_pos rfl]
      refine .of_some rfl ?_
      rw [List.map_nil, Array.append_empty]
  | succ missing =>
      rw [if_neg (Nat.succ_ne_zero missing)]
      refine (performs_stored_bytes missing).bind fun values last _ => ?_
      exact .of_some rfl .refl

/-! ## Blocks -/

/-- A block after its header.  The lowest bit of the header marks the last block, the others tell the
type. -/
def readBody (output : Bytes) (header : Nat) : FromBits (Bool × Bytes) := do
  let final := header % 2 == 1
  match header / 2 with
  | 0 => return (final, output ++ (<- readStored))
  | 1 => return (final, <- readSymbols fixedCodes (<- get).length output)
  | 2 =>
      let codes <- readCodes
      return (final, <- readSymbols codes (<- get).length output)
  | _ => failure

/-- The header of a block is one field of the machine, and a bit and a number of the format. -/
theorem readBlock_eq (output : Bytes) : readBlock output = number 3 >>= readBody output := by
  rw [number, readBlock]
  simp only [bind_assoc, pure_bind]
  congr
  funext low
  congr
  funext high
  have lowBit : ((low.toNat + 2 * high) % 2 == 1) = low := by
    cases low <;> simp [Nat.add_mul_mod_self_left]
  have highBits : (low.toNat + 2 * high) / 2 = high := by
    have := Bool.toNat_le low
    omega
  rw [readBody]
  generalize ((low.toNat + 2 * high) % 2 == 1) = final at lowBit ⊢
  generalize (low.toNat + 2 * high) / 2 = kind at highBits ⊢
  subst lowBit highBits
  rcases kind with _ | _ | _ | _ <;> rfl

/-- The symbols of a block, of which there are at most as many as bits. -/
theorem performs_all_symbols (codes : Codes) (haveBits : codes.HaveBits) :
    Performs (inPhase final output (.nextLiteral codes), bits)
      (do return (final, <- readSymbols codes (<- get).length output.toList)) fun result =>
        inPhase result.1 result.2.toArray (.afterBlock result.1) := by
  have performs := @performs_symbols final output bits codes haveBits bits.length (Nat.le_refl _)
  have continued : Performs (inPhase final output (.nextLiteral codes), bits)
      (readSymbols codes bits.length output.toList >>= fun output => pure (final, output))
      fun result => inPhase result.1 result.2.toArray (.afterBlock result.1) :=
    performs.bind fun output rest _ => .pure (fun result : Bool × Bytes =>
      inPhase result.1 result.2.toArray (.afterBlock result.1)) (final, output) rest
  exact .after .refl continued rfl

theorem performs_body (before : Bool) (header : Nat) :
    Performs (Inflater.afterField before output .blockHeader header, bits)
      (readBody output.toList header) fun result =>
        inPhase result.1 result.2.toArray (.afterBlock result.1) := by
  have phase : Inflater.afterField before output .blockHeader header =
      inPhase (header % 2 == 1) output (match header / 2 with
        | 0 => .align
        | 1 => .nextLiteral fixedCodes
        | 2 => .field .tableSizes 14 0 0
        | _ => .failed .blockType) := rfl
  rw [phase, readBody]
  generalize (header % 2 == 1) = final
  match header / 2 with
  | 0 =>
      refine performs_stored.bind fun bytes second _ => ?_
      refine .of_some rfl ?_
      rw [← List.append_toArray]
  | 1 => exact performs_all_symbols fixedCodes haveBits_fixedCodes
  | 2 =>
      refine performs_codes.bind fun codes second codesRead => ?_
      exact performs_all_symbols codes (haveBits_of_readCodes codesRead)
  | _ + 3 => exact .stuck_failed final output .blockType bits

/-- A block is appended to the output, and the machine knows whether it is the last one. -/
theorem performs_block (before : Bool) :
    Performs (inPhase before output .nextBlock, bits) (readBlock output.toList) fun result =>
      inPhase result.1 result.2.toArray (.afterBlock result.1) := by
  rw [readBlock_eq]
  exact (performs_field .blockHeader 2).bind fun header rest _ => performs_body before header

theorem length_readBlock_lt {output : Bytes} {bits rest : Bits} {result : Bool × Bytes}
    (succeeded : readBlock output bits = some (result, rest)) : rest.length < bits.length := by
  rw [readBlock_eq] at succeeded
  rcases FromBits.of_bind_eq_some succeeded with ⟨header, middle, headerRead, bodyRead⟩
  have taken := (FromBits.number_bounds headerRead).2
  have body := (@performs_body output.toArray middle false header).reaches bodyRead
  have fewer : rest.length ≤ middle.length := body.length_le
  omega

/-- All blocks up to the last one.  A block takes a bit at least, so the rounds that the bits allow
are enough. -/
theorem performs_blocks (before : Bool) (rounds : Nat) (enough : bits.length ≤ rounds) :
    Performs (inPhase before output .nextBlock, bits) (readBlocks rounds output.toList) fun output =>
      inPhase true output.toArray .done := by
  induction rounds generalizing before output bits with
  | zero =>
      have empty : bits = [] := List.length_eq_zero_iff.mp (Nat.le_zero.mp enough)
      subst empty
      exact .failure (.of_next_eq_none rfl (fun impossible => by cases impossible))
  | succ rounds inductionHypothesis =>
      refine (performs_block before).bind fun result rest blockRead => ?_
      have fewer : rest.length < bits.length := length_readBlock_lt blockRead
      rcases result with ⟨final, output⟩
      cases final with
      | true => exact .of_some rfl .refl
      | false =>
          have later := @inductionHypothesis output.toArray rest false (by omega)
          rw [List.toList_toArray] at later
          exact later

/-! ## The whole of the data -/

/-- The machine comes to its end on the bits of bytes where the format can be read from them, with
the same content and the same bytes left over. -/
theorem decode?_eq_some_iff (bytes content rest : Bytes) :
    decode? bytes = some (content, rest) ↔
      exists left, Finishes ({}, bitsOfBytes bytes) content.toArray left ∧
        rest = bytes.drop (bytes.length - left.length / 8) := by
  have performs := @performs_blocks #[] (bitsOfBytes bytes) false _ (Nat.le_refl _)
  have decoded : decode? bytes =
      (readBlocks (bitsOfBytes bytes).length [] (bitsOfBytes bytes)).bind fun result =>
        some (result.1, bytes.drop (bytes.length - result.2.length / 8)) := rfl
  rw [decoded]
  cases result : readBlocks (bitsOfBytes bytes).length [] (bitsOfBytes bytes) with
  | none =>
      constructor
      · intro impossible
        cases impossible
      · rintro ⟨left, finishes, _⟩
        exact absurd (performs.stuck result) finishes.not_stuck
  | some pair =>
      rcases pair with ⟨output, left⟩
      have finishes : Finishes ({}, bitsOfBytes bytes) output.toArray left :=
        ⟨true, performs.reaches result⟩
      constructor
      · intro same
        cases same
        exact ⟨left, finishes, rfl⟩
      · rintro ⟨otherLeft, finishesOther, sameRest⟩
        rcases finishes.unique finishesOther with ⟨sameOutput, sameLeft⟩
        have sameContent : content = output := congrArg Array.toList sameOutput
        subst sameContent sameLeft sameRest
        rfl

end Deflate
end ObjectWatch
