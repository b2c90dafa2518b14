import ObjectWatch.Deflate.Inflater
import Mathlib.Logic.Relation

/-!
# The decompressor on a sequence of bits

Seen without its limits, a decompressor walks along a sequence of bits.  `next` is one move of this
walk: a bit is taken, output that is due is produced, or the rest of a byte is skipped.  The walk is
deterministic, so of two positions that are reached from one start, one is reached from the other.

A walk that comes to its end reaches the phase `done`.  Every other position without a move is stuck:
a flaw was found, or the bits are used up.  What the decompressor is worth on some bits is therefore
said by `Finishes`, and refuted by showing a stuck position.

`Performs` relates the machine to a reader of the format: from a position the machine does what the
reader does with the bits there, and gets stuck where the reader fails.
-/

namespace ObjectWatch
namespace Deflate

open FromBits (bit number)

/-! ## Readers -/

namespace FromBits

variable {α β : Type}

theorem pure_apply (value : α) (bits : Bits) : (pure value : FromBits α) bits = some (value, bits) :=
  rfl

theorem get_apply (bits : Bits) : (get : FromBits Bits) bits = some (bits, bits) := rfl

theorem bind_apply (read : FromBits α) (next : α -> FromBits β) (bits : Bits) :
    (read >>= next) bits =
      match read bits with
      | none => none
      | some (value, rest) => next value rest := by
  show (read bits).bind _ = _
  cases read bits with
  | none => rfl
  | some result => rfl

theorem bind_of_none {read : FromBits α} {bits : Bits} (failed : read bits = none)
    (next : α -> FromBits β) : (read >>= next) bits = none := by
  rw [bind_apply, failed]

theorem bind_of_some {read : FromBits α} {bits rest : Bits} {value : α}
    (succeeded : read bits = some (value, rest)) (next : α -> FromBits β) :
    (read >>= next) bits = next value rest := by
  rw [bind_apply, succeeded]

/-- What a sequence of readers reads, its first reader reads before. -/
theorem of_bind_eq_some {read : FromBits α} {next : α -> FromBits β} {bits rest : Bits} {result : β}
    (succeeded : (read >>= next) bits = some (result, rest)) :
    exists value middle, read bits = some (value, middle) ∧ next value middle = some (result, rest) := by
  rw [bind_apply] at succeeded
  cases first : read bits with
  | none => rw [first] at succeeded; cases succeeded
  | some pair =>
      rw [first] at succeeded
      exact ⟨pair.1, pair.2, rfl, succeeded⟩

theorem of_guard_eq_some {refused : Prop} [Decidable refused] {read : FromBits α} {bits : Bits}
    {result : α × Bits}
    (succeeded : (if refused then (failure : FromBits PUnit) >>= fun _ => read else read) bits =
      some result) : ¬ refused ∧ read bits = some result := by
  by_cases holds : refused
  · rw [if_pos holds] at succeeded
    cases succeeded
  · rw [if_neg holds] at succeeded
    exact ⟨holds, succeeded⟩

end FromBits

/-! ## Positions and moves -/

/-- A decompressor with the bits that it has not read yet. -/
abbrev Position := Inflater × Bits

namespace Phase

/-- Whether output is due. -/
def isDue : Phase -> Bool
  | .literal _ _ => true
  | .copy _ _ _ => true
  | _ => false

/-- Whether the next move takes a bit. -/
def takesBit : Phase -> Bool
  | .field _ _ _ _ => true
  | .codeword _ _ => true
  | .align => true
  | .stored _ _ _ => true
  | _ => false

end Phase

namespace Inflater

/-- The decompressor in a phase, with nothing handed out and no byte begun. -/
abbrev inPhase (final : Bool) (output : Array UInt8) (phase : Phase) : Inflater :=
  { phase, final, output }

/-- The decompressor without its account of what was handed out and of the byte that was begun. -/
def core (s : Inflater) : Inflater := inPhase s.final s.output s.phase

end Inflater

open Inflater (inPhase)

namespace Position

/-- One move, if there is one.  The rest of a byte ends where the number of bits is a multiple of
eight, since the bits come from whole bytes. -/
def next (position : Position) : Option Position :=
  match position.1.phase with
  | .done => none
  | .failed _ => none
  | .literal _ _ => some (position.1.perform, position.2)
  | .copy _ _ _ => some (position.1.perform, position.2)
  | .align =>
      match position.2 with
      | [] => none
      | bit :: rest =>
          if (bit :: rest).length % 8 = 0 then
            some ({ position.1 with phase := .field .storedLength 32 0 0 }, bit :: rest)
          else some (position.1, rest)
  | .field _ _ _ _ | .codeword _ _ | .stored _ _ _ =>
      match position.2 with
      | [] => none
      | bit :: rest => some (position.1.step bit, rest)

/-- Any number of moves. -/
abbrev Reaches : Position -> Position -> Prop :=
  Relation.ReflTransGen fun first second => first.next = some second

theorem Reaches.of_next {first second : Position} (move : first.next = some second) :
    Reaches first second :=
  .single move

/-- Of two positions on one walk, one is reached from the other. -/
theorem Reaches.total {start first second : Position} (left : Reaches start first)
    (right : Reaches start second) : Reaches first second ∨ Reaches second first :=
  Relation.ReflTransGen.total_of_right_unique
    (fun _ _ _ one other => Option.some.inj (one.symm.trans other)) left right

/-- From a position without a move, only that position is reached. -/
theorem Reaches.eq_of_next_eq_none {first second : Position} (ended : first.next = none)
    (reaches : Reaches first second) : second = first := by
  rcases Relation.ReflTransGen.cases_head reaches with same | ⟨middle, move, _⟩
  · exact same.symm
  · rw [ended] at move
    cases move

/-- A walk that ends leads to its end from every position on it. -/
theorem Reaches.onward {start first last : Position} (reaches : Reaches start first)
    (later : Reaches start last) (ended : last.next = none) : Reaches first last := by
  rcases reaches.total later with onward | back
  · exact onward
  · rw [Reaches.eq_of_next_eq_none ended back]

/-- What a move does. -/
inductive Move : Position -> Position -> Prop where
  | perform (s : Inflater) (bits : Bits) (due : s.phase.isDue = true) :
      Move (s, bits) (s.perform, bits)
  | take (s : Inflater) (low : Bool) (rest : Bits) (takes : s.phase.takesBit = true) :
      Move (s, low :: rest) (s.step low, rest)
  | beginStored (s : Inflater) (bits : Bits) (skipped : s.phase = .align) :
      Move (s, bits) ({ s with phase := .field .storedLength 32 0 0 }, bits)

theorem Move.of_next {first second : Position} (move : first.next = some second) :
    Move first second := by
  rcases first with ⟨⟨phase, final, output, delivered, held⟩, bits⟩
  cases phase with
  | done => cases move
  | failed flaw => cases move
  | literal codes byte =>
      cases move
      exact .perform _ bits rfl
  | copy codes length distance =>
      cases move
      exact .perform _ bits rfl
  | align =>
      cases bits with
      | nil => cases move
      | cons low rest =>
          by_cases whole : (low :: rest).length % 8 = 0
          · cases (if_pos whole).symm.trans move
            exact .beginStored _ _ rfl
          · cases (if_neg whole).symm.trans move
            exact .take { phase := .align, final, output, delivered, held } low rest rfl
  | _ =>
      cases bits with
      | nil => cases move
      | cons low rest =>
          cases move
          exact .take _ low rest rfl

/-- The number of bits never grows. -/
theorem Move.length_le {first second : Position} (move : Move first second) :
    second.2.length ≤ first.2.length := by
  cases move with
  | perform s bits due => exact Nat.le_refl _
  | take s low rest takes => exact Nat.le_succ _
  | beginStored s bits skipped => exact Nat.le_refl _

theorem Reaches.length_le {first second : Position} (reaches : Reaches first second) :
    second.2.length ≤ first.2.length := by
  induction reaches with
  | refl => exact Nat.le_refl _
  | tail _ move inductionHypothesis =>
      exact Nat.le_trans (Move.of_next move).length_le inductionHypothesis

/-- The walk comes to the end of the compressed data, with the given output and bits left over. -/
def Finishes (start : Position) (output : Array UInt8) (rest : Bits) : Prop :=
  exists final, Reaches start (inPhase final output .done, rest)

/-- The walk comes to a position without a move before the end of the compressed data. -/
def Stuck (start : Position) : Prop :=
  exists last, Reaches start last ∧ last.next = none ∧ last.1.phase ≠ .done

theorem Stuck.of_next_eq_none {position : Position} (ended : position.next = none)
    (undone : position.1.phase ≠ .done) : Stuck position :=
  ⟨position, .refl, ended, undone⟩

theorem Stuck.of_failed (final : Bool) (output : Array UInt8) (flaw : Flaw) (bits : Bits) :
    Stuck (inPhase final output (.failed flaw), bits) :=
  .of_next_eq_none rfl (fun impossible => by cases impossible)

theorem Stuck.before {first second : Position} (reaches : Reaches first second)
    (stuck : Stuck second) : Stuck first := by
  rcases stuck with ⟨last, later, ended, undone⟩
  exact ⟨last, reaches.trans later, ended, undone⟩

theorem Stuck.after {first second : Position} (reaches : Reaches first second)
    (stuck : Stuck first) : Stuck second := by
  rcases stuck with ⟨last, later, ended, undone⟩
  exact ⟨last, reaches.onward later ended, ended, undone⟩

theorem Finishes.not_stuck {start : Position} {output : Array UInt8} {rest : Bits}
    (finishes : Finishes start output rest) : ¬ Stuck start := by
  rcases finishes with ⟨final, reaches⟩
  intro stuck
  rcases stuck.after reaches with ⟨last, later, _, undone⟩
  have same := @Reaches.eq_of_next_eq_none (inPhase final output .done, rest) last rfl later
  subst same
  exact undone rfl

/-- Finishing does not depend on the position on the walk from which it is asked. -/
theorem Reaches.finishes_iff {first second : Position} (reaches : Reaches first second)
    (output : Array UInt8) (rest : Bits) :
    Finishes first output rest ↔ Finishes second output rest := by
  constructor
  · rintro ⟨final, finish⟩
    exact ⟨final, reaches.onward finish rfl⟩
  · rintro ⟨final, finish⟩
    exact ⟨final, reaches.trans finish⟩

/-- A walk comes to one end at most. -/
theorem Finishes.unique {start : Position} {output other : Array UInt8} {rest otherRest : Bits}
    (finishes : Finishes start output rest) (otherwise : Finishes start other otherRest) :
    other = output ∧ otherRest = rest := by
  rcases finishes with ⟨final, reaches⟩
  rcases (Reaches.finishes_iff reaches other otherRest).mp otherwise with ⟨otherFinal, reachesOther⟩
  have same := @Reaches.eq_of_next_eq_none (inPhase final output .done, rest) _ rfl reachesOther
  exact ⟨congrArg (fun position : Position => position.1.output) same, congrArg Prod.snd same⟩

theorem Finishes.of_done {s : Inflater} (done : s.phase = .done) (bits : Bits) :
    Finishes (s.core, bits) s.output bits :=
  ⟨s.final, by rw [Inflater.core, done]⟩

end Position

open Position (Reaches Stuck Finishes)

/-! ## Following a reader -/

/-- From a position the machine does what a reader does: where the reader reads a value, the machine
reaches the state that belongs to the value, with the bits that the reader leaves; where the reader
fails, the machine gets stuck. -/
structure Performs {α : Type} (start : Position) (read : FromBits α) (resume : α -> Inflater) :
    Prop where
  reaches : forall {value rest}, read start.2 = some (value, rest) ->
    Reaches start (resume value, rest)
  stuck : read start.2 = none -> Stuck start

namespace Performs

variable {α β : Type} {start : Position} {read : FromBits α}

theorem of_some {resume : α -> Inflater} {value : α} {rest : Bits}
    (succeeded : read start.2 = some (value, rest))
    (reaches : Reaches start (resume value, rest)) : Performs start read resume where
  reaches := fun {_ _} result => by
    rcases Prod.mk.inj (Option.some.inj (succeeded.symm.trans result)) with ⟨sameValue, sameRest⟩
    rw [← sameValue, ← sameRest]
    exact reaches
  stuck := fun failed => by
    rw [succeeded] at failed
    cases failed

theorem of_none {resume : α -> Inflater} (failed : read start.2 = none) (stuck : Stuck start) :
    Performs start read resume where
  reaches := fun {_ _} result => by
    rw [failed] at result
    cases result
  stuck := fun _ => stuck

protected theorem pure (resume : α -> Inflater) (value : α) (bits : Bits) :
    Performs (resume value, bits) (pure value) resume :=
  .of_some rfl .refl

protected theorem failure {resume : α -> Inflater} (stuck : Stuck start) :
    Performs start failure resume :=
  .of_none rfl stuck

/-- One reader after another. -/
protected theorem bind {middle : α -> Inflater} {next : α -> FromBits β} {resume : β -> Inflater}
    (first : Performs start read middle)
    (second : forall value rest, read start.2 = some (value, rest) ->
      Performs (middle value, rest) (next value) resume) :
    Performs start (read >>= next) resume := by
  cases result : read start.2 with
  | none => exact .of_none (FromBits.bind_of_none result next) (first.stuck result)
  | some pair =>
      rcases pair with ⟨value, rest⟩
      have reached := first.reaches result
      have continued := second value rest result
      have sequence := FromBits.bind_of_some result next
      cases final : next value rest with
      | none => exact .of_none (sequence.trans final) ((continued.stuck final).before reached)
      | some pair => exact .of_some (sequence.trans final) (reached.trans (continued.reaches final))

/-- A reader that refuses under a condition, under which the machine gets stuck. -/
protected theorem guard {refused : Prop} [Decidable refused] {resume : α -> Inflater}
    (stuck : refused -> Stuck start) (continued : ¬ refused -> Performs start read resume) :
    Performs start (if refused then (failure : FromBits PUnit) >>= fun _ => read else read) resume := by
  by_cases holds : refused
  · rw [if_pos holds]
    exact .of_none rfl (stuck holds)
  · rw [if_neg holds]
    exact continued holds

/-- The machine may move before the reader begins, and another reader may stand for it. -/
protected theorem after {other : FromBits α} {resume : α -> Inflater} {first second : Position}
    (reaches : Reaches first second) (performs : Performs second read resume)
    (same : other first.2 = read second.2) : Performs first other resume where
  reaches := fun {_ _} result => reaches.trans (performs.reaches (same.symm.trans result))
  stuck := fun failed => (performs.stuck (same.symm.trans failed)).before reaches

theorem resume_congr {resume otherResume : α -> Inflater} (performs : Performs start read resume)
    (same : forall value, resume value = otherResume value) : Performs start read otherResume :=
  funext same ▸ performs

end Performs

end Deflate
end ObjectWatch
