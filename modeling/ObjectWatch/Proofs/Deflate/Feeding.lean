import ObjectWatch.Proofs.Deflate.Output

/-!
# Feeding the decompressor

The decompressor is fed in pieces and asked for limited output.  Whatever the pieces and the limits
are, it stays on its walk: what it is after a piece, with the bits that it holds and the bytes that it
hands back in front of everything that is still to come, lies on the walk from where it was.

Three facts are kept from one piece to the next, since a machine is put aside between them.  Fewer
bits than a byte are held.  Data that has come to its end was handed out whole, and so was the output
in front of a stored byte that was begun.  The last two hold because a machine with enough output
reads on but produces no more.
-/

namespace ObjectWatch
namespace Deflate

open Position (Reaches Stuck Finishes)

theorem bitsOfBytes_cons (byte : UInt8) (bytes : Bytes) :
    bitsOfBytes (byte :: bytes) = bitsOf byte ++ bitsOfBytes bytes := rfl

namespace Inflater

/-! ## Producing output -/

theorem perform_of_not_due {s : Inflater} (undue : s.phase.isDue = false) : s.perform = s := by
  rcases s with ⟨phase, final, output, delivered, held⟩
  cases phase with
  | literal codes byte => cases undue
  | copy codes length distance => cases undue
  | _ => rfl

theorem perform_of_far {codes : Codes} {length distance delivered : Nat} {final : Bool}
    {output : Array UInt8} {held : Bits} (far : output.size < distance) :
    perform ⟨.copy codes length distance, final, output, delivered, held⟩ =
      ⟨.failed .distanceTooFar, final, output, delivered, held⟩ := if_pos far

theorem perform_of_near {codes : Codes} {length distance delivered : Nat} {final : Bool}
    {output : Array UInt8} {held : Bits} (near : ¬ output.size < distance) :
    perform ⟨.copy codes length distance, final, output, delivered, held⟩ =
      ⟨.nextLiteral codes, final, copyBack distance length output, delivered, held⟩ := if_neg near

theorem core_perform (s : Inflater) : s.core.perform = s.perform.core := by
  rcases s with ⟨phase, final, output, delivered, held⟩
  cases phase with
  | copy codes length distance =>
      by_cases far : output.size < distance
      · rw [perform_of_far far]
        exact perform_of_far far
      · rw [perform_of_near far]
        exact perform_of_near far
  | _ => rfl

theorem perform_kept (s : Inflater) : s.perform.delivered = s.delivered ∧ s.perform.held = s.held := by
  rcases s with ⟨phase, final, output, delivered, held⟩
  cases phase with
  | copy codes length distance =>
      rw [perform]
      split <;> exact ⟨rfl, rfl⟩
  | _ => exact ⟨rfl, rfl⟩

/-- Output that is due is followed by the next symbol, or by a flaw. -/
theorem phase_perform_of_due {s : Inflater} (due : s.phase.isDue = true) :
    (exists codes, s.perform.phase = .nextLiteral codes) ∨
      exists flaw, s.perform.phase = .failed flaw := by
  rcases s with ⟨phase, final, output, delivered, held⟩
  cases phase with
  | literal codes byte => exact .inl ⟨codes, rfl⟩
  | copy codes length distance =>
      rw [perform]
      split
      · exact .inr ⟨.distanceTooFar, rfl⟩
      · exact .inl ⟨codes, rfl⟩
  | _ => cases due

theorem settle_kept (target : Nat) (s : Inflater) :
    (s.settle target).delivered = s.delivered ∧ (s.settle target).held = s.held := by
  rw [settle]
  split
  · exact s.perform_kept
  · exact ⟨rfl, rfl⟩

theorem reaches_settle (target : Nat) (s : Inflater) (bits : Bits) :
    Reaches (s.core, bits) ((s.settle target).core, bits) := by
  rw [settle]
  split
  · rw [← core_perform]
    cases due : s.phase.isDue with
    | false =>
        have same : s.core.perform = s.core := perform_of_not_due due
        rw [same]
    | true =>
        refine .of_next ?_
        rcases s with ⟨phase, final, output, delivered, held⟩
        cases phase with
        | literal codes byte => rfl
        | copy codes length distance => rfl
        | _ => cases due
  · exact .refl

theorem settle_of_takesBit {target : Nat} {s : Inflater} (takes : s.phase.takesBit = true) :
    s.settle target = s := by
  have undue : s.phase.isDue = false := by
    cases phase : s.phase with
    | literal codes byte => rw [phase] at takes; cases takes
    | copy codes length distance => rw [phase] at takes; cases takes
    | _ => rfl
  rw [settle, perform_of_not_due undue, ite_self]

/-- Output stays due only where enough was produced. -/
theorem size_of_settle_due {target : Nat} {s : Inflater}
    (due : (s.settle target).phase.isDue = true) : target ≤ (s.settle target).output.size := by
  rw [settle] at due ⊢
  by_cases less : s.output.size < target
  · rw [if_pos less] at due
    cases before : s.phase.isDue with
    | false =>
        rw [perform_of_not_due before, before] at due
        cases due
    | true =>
        rcases phase_perform_of_due before with ⟨codes, phase⟩ | ⟨flaw, phase⟩
        · rw [phase] at due
          cases due
        · rw [phase] at due
          cases due
  · rw [if_neg less]
    exact Nat.le_of_not_lt less

/-- What it means for a machine to go on. -/
theorem not_halted_iff {target : Nat} {s : Inflater} :
    s.isHalted target = false ↔ s.phase.isOver = false ∧ s.output.size ≤ target ∧
      (s.output.size = target -> s.phase.wantsRoom = false) := by
  simp only [isHalted, Bool.or_eq_false_iff, decide_eq_false_iff_not, Bool.and_eq_false_iff,
    beq_eq_false_iff_ne, Nat.not_lt, and_assoc]
  refine and_congr_right fun _ => and_congr_right fun _ => ?_
  rw [← Decidable.imp_iff_not_or, eq_comm]

/-- A machine that was settled and goes on takes a bit. -/
theorem takesBit_of_not_halted {target : Nat} {s : Inflater}
    (runs : (s.settle target).isHalted target = false) :
    (s.settle target).phase.takesBit = true := by
  rcases not_halted_iff.mp runs with ⟨unended, within, room⟩
  cases due : (s.settle target).phase.isDue with
  | true =>
      have full := room (Nat.le_antisymm within (size_of_settle_due due))
      cases phase : (s.settle target).phase with
      | literal codes byte => rw [phase] at full; cases full
      | copy codes length distance => rw [phase] at full; cases full
      | _ => rw [phase] at due; cases due
  | false =>
      cases phase : (s.settle target).phase with
      | done => rw [phase] at unended; cases unended
      | failed flaw => rw [phase] at unended; cases unended
      | literal codes byte => rw [phase] at due; cases due
      | copy codes length distance => rw [phase] at due; cases due
      | _ => rfl

/-! ## Taking bits -/

theorem core_step (low : Bool) (s : Inflater) : s.core.step low = (s.step low).core := by
  rcases s with ⟨phase, final, output, delivered, held⟩
  cases phase with
  | field goal want got value =>
      by_cases more : got + 1 < want
      · simp only [core, step, if_pos more]
      · simp only [core, step, if_neg more]
  | stored left got value =>
      by_cases more : got < 7
      · simp only [core, step, if_pos more]
      · simp only [core, step, if_neg more]
  | _ => rfl

theorem step_kept (low : Bool) (s : Inflater) : (s.step low).delivered = s.delivered := by
  rcases s with ⟨phase, final, output, delivered, held⟩
  cases phase with
  | field goal want got value =>
      by_cases more : got + 1 < want
      · simp only [step, if_pos more]
      · simp only [step, if_neg more]
  | stored left got value =>
      by_cases more : got < 7
      · simp only [step, if_pos more]
      · simp only [step, if_neg more]
  | _ => rfl

/-- A bit is taken on the walk.  The rest of a byte is skipped bit by bit, so it must have begun. -/
theorem reaches_step {s : Inflater} (takes : s.phase.takesBit = true) (low : Bool) (rest : Bits)
    (begun : s.phase = .align -> (low :: rest).length % 8 ≠ 0) :
    Reaches (s.core, low :: rest) ((s.step low).core, rest) := by
  rw [← core_step]
  refine .of_next ?_
  rcases s with ⟨phase, final, output, delivered, held⟩
  cases phase with
  | align => exact if_neg (begun rfl)
  | field goal want got value => rfl
  | codeword goal node => rfl
  | stored left got value => rfl
  | _ => cases takes

/-- What a machine has that was asked for `target` bytes in all.  Once it has them it reads on as long
as nothing is due, so it neither ends with more nor begins another stored byte. -/
structure Paced (target : Nat) (s : Inflater) : Prop where
  fits : s.phase.Fits
  ended : s.phase = .done -> s.output.size ≤ target
  begun : forall left got value, s.phase = .stored left got value -> 0 < got -> s.output.size < target

theorem Paced.of_fresh {target : Nat} {s : Inflater} (fresh : s.phase.Fresh)
    (within : s.output.size ≤ target) : s.Paced target where
  fits := fresh.fits
  ended := fun _ => within
  begun := fun left got value phase positive => by
    rw [phase] at fresh
    exact absurd fresh (Nat.ne_of_gt positive)

theorem Paced.settle {target : Nat} {s : Inflater} (paced : s.Paced target) :
    (s.settle target).Paced target := by
  rw [Inflater.settle]
  by_cases less : s.output.size < target
  · rw [if_pos less]
    cases due : s.phase.isDue with
    | false => rw [perform_of_not_due due]; exact paced
    | true =>
        have follows : s.perform.phase ≠ .done ∧
            forall left got value, s.perform.phase ≠ .stored left got value := by
          rcases phase_perform_of_due due with ⟨codes, phase⟩ | ⟨flaw, phase⟩
          · rw [phase]
            exact ⟨Phase.noConfusion, fun _ _ _ => Phase.noConfusion⟩
          · rw [phase]
            exact ⟨Phase.noConfusion, fun _ _ _ => Phase.noConfusion⟩
        exact ⟨s.fits_perform paced.fits, fun impossible => absurd impossible follows.1,
          fun left got value impossible => absurd impossible (follows.2 left got value)⟩
  · rw [if_neg less]
    exact paced

theorem Paced.step {target : Nat} {s : Inflater} (paced : s.Paced target)
    (runs : s.isHalted target = false) (low : Bool) : (s.step low).Paced target := by
  rcases not_halted_iff.mp runs with ⟨unended, within, room⟩
  have fits := s.fits_step low paced.fits
  have begun := paced.begun
  rcases s with ⟨phase, final, output, delivered, held⟩
  cases phase with
  | field goal want got value =>
      by_cases more : got + 1 < want
      · simp only [Inflater.step, if_pos more] at fits ⊢
        exact ⟨fits, fun _ => within, fun _ _ _ impossible => Phase.noConfusion impossible⟩
      · have fresh := fun final =>
          Phase.fresh_afterField final goal want got value paced.fits low more
        simp only [Inflater.step, if_neg more, collected]
        exact .of_fresh (fresh _) within
  | codeword goal node => exact .of_fresh (fresh_step_codeword low paced.fits) within
  | stored left got value =>
      have less : output.size < target := by
        rcases Nat.eq_zero_or_pos got with zero | positive
        · refine Nat.lt_of_le_of_ne within fun full => ?_
          subst zero
          cases room full
        · exact begun left got value rfl positive
      by_cases more : got < 7
      · simp only [Inflater.step, if_pos more]
        exact ⟨trivial, fun _ => within, fun _ _ _ _ _ => less⟩
      · simp only [Inflater.step, if_neg more]
        have grown : (output.push (UInt8.ofNat (if low then value + Nat.pow 2 got else value))).size ≤
            target := by
          rw [Array.size_push]
          exact less
        refine .of_fresh ?_ grown
        dsimp only
        split
        · exact Phase.fresh_afterBlock final
        · rfl
  | _ => exact paced

/-! ## Reading bits -/

/-- What reading comes to: from a machine in front of some bits, another one on its walk, in front of
the bits that it holds and those that it left. -/
structure Progress (target : Nat) (s : Inflater) (bits : Bits) (after : Inflater) (left : Bits) :
    Prop where
  reaches : Reaches (s.core, bits) (after.core, after.held ++ left)
  paced : after.Paced target
  delivered : after.delivered = s.delivered
  held : after.held.length < 8

variable {target : Nat} {s : Inflater}

theorem Progress.trans {middle after : Inflater} {bits middleLeft left : Bits}
    (first : Progress target s bits middle middleLeft)
    (second : Progress target middle (middle.held ++ middleLeft) after left) :
    Progress target s bits after left where
  reaches := first.reaches.trans second.reaches
  paced := second.paced
  delivered := second.delivered.trans first.delivered
  held := second.held

theorem mod_length_append (bits : Bits) (bytes : Bytes) :
    (bits ++ bitsOfBytes bytes).length % 8 = bits.length % 8 := by
  rw [List.length_append, length_bitsOfBytes]
  omega

theorem advance_of_not_halted (low : Bool) (bits : Bits)
    (runs : (s.settle target).isHalted target = false) :
    advance target (low :: bits) s = advance target bits ((s.settle target).step low) := by
  rw [advance]
  simp only [runs, Bool.false_eq_true, if_false]

theorem advance_of_halted (low : Bool) (bits : Bits)
    (halted : (s.settle target).isHalted target = true) :
    advance target (low :: bits) s = { s.settle target with held := low :: bits } := by
  rw [advance]
  simp only [halted, if_true]

/-- A machine that is not halted takes the next bit. -/
theorem reaches_settled_step (paced : s.Paced target)
    (runs : (s.settle target).isHalted target = false) (low : Bool) (rest : Bits)
    (begun : (s.settle target).phase = .align -> (low :: rest).length % 8 ≠ 0) :
    Reaches (s.core, low :: rest) (((s.settle target).step low).core, rest) ∧
      ((s.settle target).step low).Paced target ∧
      ((s.settle target).step low).delivered = s.delivered :=
  ⟨(reaches_settle target s _).trans
      (reaches_step (takesBit_of_not_halted runs) low rest begun),
    paced.settle.step runs low, (step_kept low _).trans (settle_kept target s).1⟩

/-- The rest of a byte is read up to where the machine is halted. -/
theorem advance_progress (paced : s.Paced target) (bits : Bits) (short : bits.length < 8)
    (left : Bytes) :
    Progress target s (bits ++ bitsOfBytes left) (advance target bits s) (bitsOfBytes left) := by
  induction bits generalizing s with
  | nil =>
      exact ⟨reaches_settle target s _, ⟨paced.settle.fits, paced.settle.ended, paced.settle.begun⟩,
        (settle_kept target s).1, Nat.succ_pos 7⟩
  | cons low bits inductionHypothesis =>
      cases halted : (s.settle target).isHalted target with
      | true =>
          rw [advance_of_halted low bits halted]
          exact ⟨reaches_settle target s _,
            ⟨paced.settle.fits, paced.settle.ended, paced.settle.begun⟩,
            (settle_kept target s).1, short⟩
      | false =>
          rw [List.length_cons] at short
          rcases reaches_settled_step paced halted low (bits ++ bitsOfBytes left) (fun _ => by
              rw [← List.cons_append, mod_length_append, List.length_cons]
              omega) with
            ⟨reaches, stepPaced, delivered⟩
          rw [advance_of_not_halted low bits halted]
          have later := inductionHypothesis stepPaced (by omega)
          exact ⟨reaches.trans later.reaches, later.paced, later.delivered.trans delivered, later.held⟩

/-- Reading bits ends where the machine is halted, or without bits. -/
theorem advance_ends (bits : Bits) :
    (advance target bits s).isHalted target = true ∨
      (advance target bits s).held = [] ∧ (advance target bits s).phase.takesBit = true := by
  induction bits generalizing s with
  | nil =>
      cases halted : (s.settle target).isHalted target with
      | true => exact .inl halted
      | false => exact .inr ⟨rfl, takesBit_of_not_halted halted⟩
  | cons low bits inductionHypothesis =>
      cases halted : (s.settle target).isHalted target with
      | true =>
          rw [advance_of_halted low bits halted]
          exact .inl halted
      | false =>
          rw [advance_of_not_halted low bits halted]
          exact inductionHypothesis

/-! ## Reading bytes -/

/-- What a machine is at the beginning of a byte: it has taken all bits before, and it goes on. -/
structure Ready (target : Nat) (s : Inflater) : Prop where
  paced : s.Paced target
  takes : s.phase.takesBit = true
  runs : s.isHalted target = false
  held : s.held = []

/-- Beginning a byte is a move where the rest of the byte before was skipped, and else none. -/
theorem Ready.beginByte (ready : s.Ready target) (byte : UInt8) (left : Bytes) :
    Reaches (s.core, bitsOfBytes (byte :: left))
        ((s.beginByte byte).core, bitsOf byte ++ bitsOfBytes left) ∧
      (s.beginByte byte).Paced target ∧ (s.beginByte byte).phase.takesBit = true ∧
      (s.beginByte byte).phase ≠ .align ∧ (s.beginByte byte).isHalted target = false ∧
      (s.beginByte byte).delivered = s.delivered := by
  rcases ready with ⟨⟨fits, ended, begun⟩, takes, runs, _⟩
  rcases s with ⟨phase, final, output, delivered, held⟩
  cases phase with
  | align =>
      have within : output.size ≤ target := (not_halted_iff.mp runs).2.1
      have whole : (bitsOfBytes (byte :: left)).length % 8 = 0 := by
        rw [length_bitsOfBytes]
        omega
      refine ⟨?_, .of_fresh trivial within, rfl, Phase.noConfusion,
        not_halted_iff.mpr ⟨rfl, within, fun _ => rfl⟩, rfl⟩
      rw [← bitsOfBytes_cons]
      cases bits : bitsOfBytes (byte :: left) with
      | nil => cases bits
      | cons low rest =>
          rw [bits] at whole
          exact .of_next (if_pos whole)
  | field goal want got value =>
      exact ⟨.refl, ⟨fits, ended, begun⟩, rfl, Phase.noConfusion, runs, rfl⟩
  | codeword goal node =>
      exact ⟨.refl, ⟨fits, ended, begun⟩, rfl, Phase.noConfusion, runs, rfl⟩
  | stored left got value =>
      exact ⟨.refl, ⟨fits, ended, begun⟩, rfl, Phase.noConfusion, runs, rfl⟩
  | _ => cases takes

/-- A machine that begins a byte takes its first bit, so fewer than eight are held afterwards. -/
theorem Ready.progress (ready : s.Ready target) (byte : UInt8) (left : Bytes) :
    Progress target s (bitsOfBytes (byte :: left))
      (advance target (bitsOf byte) (s.beginByte byte)) (bitsOfBytes left) := by
  rcases ready.beginByte byte left with ⟨reaches, paced, takes, unaligned, runs, delivered⟩
  have size := length_bitsOf byte
  cases bits : bitsOf byte with
  | nil => rw [bits] at size; cases size
  | cons low rest =>
      rw [bits, List.length_cons] at size
      rw [bits] at reaches
      have settled : (s.beginByte byte).settle target = s.beginByte byte := settle_of_takesBit takes
      rw [← settled] at runs
      rcases reaches_settled_step paced runs low (rest ++ bitsOfBytes left)
          (fun impossible => absurd (settled ▸ impossible) unaligned) with
        ⟨reachesStep, stepPaced, stepDelivered⟩
      have later := advance_progress stepPaced rest (by omega) left
      rw [advance_of_not_halted low rest runs]
      exact ⟨reaches.trans (reachesStep.trans later.reaches), later.paced,
        later.delivered.trans (stepDelivered.trans delivered), later.held⟩

/-- Whatever is not halted after its bits is ready for a byte. -/
theorem ready_advance {bits : Bits} (paced : (advance target bits s).Paced target)
    (runs : (advance target bits s).isHalted target = false) : (advance target bits s).Ready target := by
  rcases advance_ends bits with halted | ⟨held, takes⟩
  · rw [runs] at halted
    cases halted
  · exact ⟨paced, takes, runs, held⟩

theorem feed_of_halted {byte : UInt8} {bytes : Bytes}
    (halted : (advance target s.held s).isHalted target = true) :
    feed target (byte :: bytes) s = (advance target s.held s, byte :: bytes) := by
  rw [feed]
  simp only [halted, if_true]

theorem feed_of_not_halted {byte : UInt8} {bytes : Bytes}
    (runs : (advance target s.held s).isHalted target = false) :
    feed target (byte :: bytes) s =
      feed target bytes ((advance target s.held s).beginByte byte) := by
  rw [feed]
  simp only [runs, Bool.false_eq_true, if_false]

/-- Bytes are read on the walk.  What is left after the held bits is carried through the induction, so
that each byte begins where the one before has ended. -/
theorem feed_progress_from {start : Inflater} {bits : Bits} (bytes more : Bytes)
    (first : Progress target start bits (advance target s.held s) (bitsOfBytes (bytes ++ more))) :
    Progress target start bits (feed target bytes s).1
      (bitsOfBytes ((feed target bytes s).2 ++ more)) := by
  induction bytes generalizing s with
  | nil => exact first
  | cons byte bytes inductionHypothesis =>
      cases halted : (advance target s.held s).isHalted target with
      | true =>
          rw [feed_of_halted halted]
          exact first
      | false =>
          have ready := ready_advance first.paced halted
          rw [feed_of_not_halted halted]
          refine inductionHypothesis (first.trans ?_)
          rw [ready.held]
          exact ready.progress byte (bytes ++ more)

theorem feed_progress (paced : s.Paced target) (short : s.held.length < 8) (bytes more : Bytes) :
    Progress target s (s.held ++ bitsOfBytes (bytes ++ more)) (feed target bytes s).1
      (bitsOfBytes ((feed target bytes s).2 ++ more)) :=
  feed_progress_from bytes more (advance_progress paced s.held short (bytes ++ more))

/-- Bytes are handed back only by a halted machine. -/
theorem feed_ends (bytes : Bytes) :
    (feed target bytes s).1.isHalted target = true ∨
      (feed target bytes s).2 = [] ∧ (feed target bytes s).1.held = [] ∧
        (feed target bytes s).1.phase.takesBit = true := by
  induction bytes generalizing s with
  | nil =>
      rcases advance_ends s.held with halted | ended
      · exact .inl halted
      · exact .inr ⟨rfl, ended⟩
  | cons byte bytes inductionHypothesis =>
      cases halted : (advance target s.held s).isHalted target with
      | true =>
          rw [feed_of_halted halted]
          exact .inl halted
      | false =>
          rw [feed_of_not_halted halted]
          exact inductionHypothesis

/-- The bytes that are handed back are the last of the input. -/
theorem feed_suffix (bytes : Bytes) : (feed target bytes s).2 <:+ bytes := by
  induction bytes generalizing s with
  | nil => exact List.suffix_rfl
  | cons byte bytes inductionHypothesis =>
      cases halted : (advance target s.held s).isHalted target with
      | true => exact ⟨[], congrArg Prod.snd (feed_of_halted halted)⟩
      | false =>
          rw [feed_of_not_halted halted]
          exact inductionHypothesis.trans (List.suffix_cons byte bytes)

/-! ## Requests -/

/-- What a machine is between two requests. -/
structure Resting (s : Inflater) : Prop where
  fits : s.phase.Fits
  held : s.held.length < 8
  delivered : s.delivered ≤ s.output.size
  ended : s.phase = .done -> s.delivered = s.output.size
  begun : forall left got value, s.phase = .stored left got value -> 0 < got ->
    s.delivered = s.output.size

theorem resting_start : Resting {} where
  fits := trivial
  held := Nat.succ_pos 7
  delivered := Nat.le_refl 0
  ended := fun impossible => Phase.noConfusion impossible
  begun := fun _ _ _ impossible => Phase.noConfusion impossible

theorem Resting.paced (resting : s.Resting) {limit : Nat} (positive : 0 < limit) :
    s.Paced (s.delivered + limit) where
  fits := resting.fits
  ended := fun done => by
    have := resting.ended done
    omega
  begun := fun left got value phase positiveGot => by
    have := resting.begun left got value phase positiveGot
    omega

/-- What a request that finds no flaw comes to. -/
structure Answer (s : Inflater) (limit : Nat) (input chunk : Bytes) (after : Inflater)
    (rest : Bytes) : Prop where
  resting : after.Resting
  reaches : forall more : Bytes, Reaches (s.core, s.held ++ bitsOfBytes (input ++ more))
    (after.core, after.held ++ bitsOfBytes (rest ++ more))
  delivered : after.delivered = s.delivered + chunk.length
  handedOut : after.output.toList.take after.delivered =
    after.output.toList.take s.delivered ++ chunk
  limited : chunk.length ≤ limit
  /-- Without output the data has ended, or everything was read and more is needed. -/
  empty : chunk = [] -> after.phase = .done ∨
    rest = [] ∧ after.held = [] ∧ after.phase.takesBit = true

/-- What is handed out is the output from the place where the request before has ended. -/
theorem take_append_extract (output : Array UInt8) {first second : Nat} (ordered : first ≤ second)
    (within : second ≤ output.size) :
    output.toList.take second = output.toList.take first ++ (output.extract first second).toList ∧
      (output.extract first second).toList.length = second - first := by
  rw [Array.toList_extract, List.extract_eq_take_drop]
  constructor
  · rw [← List.take_add, Nat.add_sub_cancel' ordered]
  · rw [List.length_take, List.length_drop, Array.length_toList]
    omega

theorem inflate_answer (resting : s.Resting) {limit : Nat} (positive : 0 < limit)
    {input chunk rest : Bytes} {after : Inflater}
    (answered : s.inflate limit input = (.ok chunk, after, rest)) :
    Answer s limit input chunk after rest := by
  have progress := feed_progress (resting.paced positive) resting.held input
  have ends := @feed_ends (s.delivered + limit) s input
  unfold inflate at answered
  dsimp only at answered
  generalize (s.feed (s.delivered + limit) input).1 = middle at answered progress ends
  generalize (s.feed (s.delivered + limit) input).2 = left at answered progress ends
  have handed : middle.deliver (s.delivered + limit) =
      ((middle.output.extract s.delivered (min (s.delivered + limit) middle.output.size)).toList,
        { middle with delivered := min (s.delivered + limit) middle.output.size }) := by
    rw [deliver, (progress []).delivered]
  cases flaw : middle.flaw? with
  | some found => rw [flaw] at answered; cases answered
  | none =>
      rw [flaw, handed] at answered
      cases answered
      have grown : s.output.size ≤ middle.output.size :=
        (Reaches.output_extends (progress []).reaches).length_le
      have paced := (progress []).paced
      have before := resting.delivered
      have ordered : s.delivered ≤ min (s.delivered + limit) middle.output.size := by omega
      rcases take_append_extract middle.output ordered (Nat.min_le_right _ _) with
        ⟨handedOut, length⟩
      refine ⟨⟨paced.fits, (progress []).held, Nat.min_le_right _ _, ?_, ?_⟩,
        fun more => (progress more).reaches, ?_, handedOut, ?_, ?_⟩
      · intro done
        exact Nat.min_eq_right (paced.ended done)
      · intro _ _ _ phase begun
        exact Nat.min_eq_right (Nat.le_of_lt (paced.begun _ _ _ phase begun))
      · rw [length]
        show min (s.delivered + limit) middle.output.size = _
        omega
      · rw [length]
        omega
      · intro nothing
        have none : min (s.delivered + limit) middle.output.size - s.delivered = 0 :=
          length.symm.trans (congrArg List.length nothing)
        have short : middle.output.size < s.delivered + limit := by omega
        rcases ends with halted | ended
        · left
          have unfull : s.delivered + limit ≠ middle.output.size := by omega
          simp only [isHalted, Bool.or_eq_true, decide_eq_true_eq, Bool.and_eq_true,
            beq_iff_eq, unfull, false_and, or_false, Nat.lt_asymm short] at halted
          show middle.phase = .done
          cases phase : middle.phase with
          | done => rfl
          | failed found => rw [flaw?, phase] at flaw; cases flaw
          | _ => rw [phase] at halted; cases halted
        · exact .inr ended

theorem inflate_suffix {limit : Nat} {input rest : Bytes} {result : Except Flaw Bytes} {after : Inflater}
    (answered : s.inflate limit input = (result, after, rest)) : rest <:+ input := by
  have suffix := @feed_suffix (s.delivered + limit) s input
  unfold inflate at answered
  dsimp only at answered
  split at answered
  · cases answered
    exact suffix
  · cases answered
    exact suffix

theorem inflate_stuck (resting : s.Resting) {limit : Nat} (positive : 0 < limit)
    {input rest : Bytes} {flaw : Flaw} {after : Inflater}
    (refused : s.inflate limit input = (.error flaw, after, rest)) (more : Bytes) :
    Stuck (s.core, s.held ++ bitsOfBytes (input ++ more)) := by
  have progress := feed_progress (resting.paced positive) resting.held input more
  unfold inflate at refused
  dsimp only at refused
  generalize (s.feed (s.delivered + limit) input).1 = middle at refused progress
  generalize (s.feed (s.delivered + limit) input).2 = left at refused progress
  cases phase : middle.phase with
  | failed found =>
      have failed : middle.core = inPhase middle.final middle.output (.failed found) := by
        rw [core, phase]
      refine Stuck.before progress.reaches ?_
      rw [failed]
      exact .of_failed _ _ found _
  | _ =>
      rw [flaw?, phase] at refused
      cases refused

end Inflater

end Deflate
end ObjectWatch
