import ObjectWatch.Proofs.Gzip.Exactness

/-!
# Streams with nothing to give

A body that brings nothing when it is asked for the magic bytes is opened, because data may be empty.  The
stream is at its end then, and it stays as it is: every request asks for the magic bytes again and brings
nothing again.  This is so for a body without bytes, and for one that serves none of those that it has.
-/

namespace ObjectWatch
namespace Gzip
namespace Stream

variable {reader : Reader} {body : Body}

/-- A reader that has nothing to give. -/
def Idle (reader : Reader) : Prop := forall limit, Reader.read reader.bound limit reader = .ok [] reader

/-- A body that brings nothing for the magic bytes has nothing to give. -/
theorem idle_of_read (asked : body.read (some 2) = .ok [] body) : Idle (ofBody body).reader := by
  have read : Source.read 2 (ofBody body).reader.source = .ok [] (ofBody body).reader.source :=
    Source.read_of_body_read asked
  have ended (bound : Nat) : readHeader bound (ofBody body).reader.source =
      .ok false (ofBody body).reader.source := (bind_of_ok read _).trans rfl
  have found (bound : Nat) : Reader.onSource (readHeader bound) (ofBody body).reader =
      .ok false (ofBody body).reader := by
    rw [Reader.onSource, ended]
  have entered (bound : Nat) : Reader.enterMember bound (ofBody body).reader =
      .ok false (ofBody body).reader := (bind_of_ok (found bound) _).trans rfl
  intro limit
  rw [Reader.read]
  split
  · rfl
  · exact (bind_of_ok (entered _) _).trans rfl

/-- A body without bytes that does not fail has nothing to give. -/
theorem idle_of_empty (opened : body.closed = false) (unfailing : body.failure = none)
    (empty : body.rest = []) : Idle (ofBody body).reader := by
  apply idle_of_read
  rw [Body.read_of_open opened (by decide), if_pos empty, unfailing]

/-- A body that serves nothing of what it has looks as if it had nothing. -/
theorem idle_of_stuck (opened : body.closed = false) (stuck : body.readCap = some 0)
    (nonempty : body.rest ≠ []) : Idle (ofBody body).reader := by
  apply idle_of_read
  rw [Body.read_of_open opened (by decide), if_neg nonempty, Body.capped_of_stuck stuck]
  rfl

theorem readBlocks_of_idle (idle : Idle reader) (rounds wanted : Nat) :
    exists ended, readBlocks reader.bound rounds wanted [] reader = .ok ([], wanted, ended) reader := by
  cases rounds with
  | zero => exact ⟨false, rfl⟩
  | succ rounds =>
      rw [readBlocks]
      by_cases few : wholeBlocks wanted = 0
      · rw [if_pos few]
        exact ⟨false, rfl⟩
      · rw [if_neg few, bind_of_ok (idle _)]
        exact ⟨true, rfl⟩

theorem fillBlock_of_idle (idle : Idle reader) (rounds wanted room : Nat) :
    fillBlock reader.bound rounds wanted [] room reader = .ok [] reader := by
  cases rounds with
  | zero => rfl
  | succ rounds =>
      rw [fillBlock]
      by_cases none : wanted = 0
      · rw [if_pos none]
        rfl
      · rw [if_neg none, bind_of_ok (idle _)]
        rfl

theorem drain_of_idle (idle : Idle reader) (rounds : Nat) :
    drain reader.bound rounds [] reader = .ok [] reader := by
  cases rounds with
  | zero => rfl
  | succ rounds =>
      rw [drain, bind_of_ok (idle _)]
      rfl

/-- A read of an admissible size finds the end of a stream that has nothing to give. -/
theorem read_of_idle (idle : Idle reader) {size : Int} (inRange : -1 ≤ size) :
    read size ⟨reader, [], false⟩ = .ok [] ⟨reader, [], false⟩ := by
  rw [read_of_inRange inRange rfl]
  split
  · have drained := onReader_of_ok
      (drain_of_idle idle (outputBound ⟨reader, [], false⟩ + 1)) [] false
    rw [readAll_eq]
    exact bind_of_ok drained _
  · by_cases enough : size.toNat ≤ 0
    · rw [readUpTo_of_enough enough, List.take_nil, List.drop_nil]
    · rcases readBlocks_of_idle idle size.toNat size.toNat with ⟨ended, blocks⟩
      rw [readUpTo_of_short enough, readPast, List.length_nil, Nat.sub_zero,
        bind_of_ok (onReader_of_ok blocks [] false)]
      cases ended with
      | true => rfl
      | false =>
          have filled := onReader_of_ok
            (fillBlock_of_idle idle size.toNat size.toNat blockSize) [] false
          refine (bind_of_ok filled _).trans ?_
          have nothing : joined [] = [] := rfl
          simp only [nothing, List.take_nil, List.drop_nil]
          rfl

/-- A body that has nothing to give is opened. -/
theorem openBody_of_idle (idle : Idle (ofBody body).reader) : openBody body = .ok (.ofBody body) := by
  have request := onReader_of_ok (idle blockSize) [] false
  have primed : prime (.ofBody body) = .ok () (.ofBody body) := (bind_of_ok request _).trans rfl
  rw [openBody, primed]

end Stream
end Gzip
end ObjectWatch
