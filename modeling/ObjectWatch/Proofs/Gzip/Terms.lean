import ObjectWatch.Proofs.Gzip.Stream

/-!
# The terms of a body stay

Reading takes bytes from a body and changes nothing else about it: how it fails, how much it serves at
once and how it is closed are the same before and after.  This holds for every operation of a stream,
whether it ends with a value or with an error.

The terms also say which errors there can be.  What the body does not raise itself is about bytes that
are no gzip file, unless the body was closed before.  So a body that raises nothing but external faults
makes its stream raise nothing else.
-/

namespace ObjectWatch

/-! ## External faults -/

namespace Fault

/-- A fault is external: a handler for failures sees it, and it is none of the watcher's own family. -/
structure IsExternal (fault : Fault) : Prop where
  isOrdinary : fault.isOrdinary = true
  isForeign : fault.watchKind? = none

theorem isExternal_of_spoilsOpening {fault : Fault} (spoils : fault.spoilsOpening = true) :
    fault.IsExternal := by
  cases fault <;> first | exact ⟨rfl, rfl⟩ | cases spoils

end Fault

/-! ## Bodies -/

namespace Body

/-- Everything about a body but the bytes that it still serves. -/
def terms (body : Body) : Body := { body with rest := [] }

/-- The fault of a read from a body that was closed. -/
def closedFault : Fault := .badValue "I/O operation on closed file."

/-- The faults that reading a body can meet, whatever bytes it serves. -/
def Allows (body : Body) (fault : Fault) : Prop :=
  body.failure = some fault ∨ fault.spoilsOpening = true ∨ body.closed = true ∧ fault = closedFault

/-- A fault of bytes that are no gzip file is allowed on all terms. -/
theorem allows_of_spoilsOpening {fault : Fault} (spoils : fault.spoilsOpening = true) (body : Body) :
    body.Allows fault := .inr (.inl spoils)

/-- An open body without a failure allows no other faults. -/
theorem Allows.cases_of_open {body : Body} {fault : Fault} (allowed : body.Allows fault)
    (opened : body.closed = false) : body.failure = some fault ∨ fault.spoilsOpening = true := by
  rcases allowed with failed | spoils | ⟨closed, _⟩
  · exact .inl failed
  · exact .inr spoils
  · rw [opened] at closed
    cases closed

/-- A body raises no other faults than external ones, neither when it is read nor when it is closed. -/
structure RaisesExternal (body : Body) : Prop where
  reading : forall fault, body.failure = some fault -> fault.IsExternal
  closing : forall fault, body.closeFault = some fault -> fault.IsExternal

/-- A fault is met by no body that raises nothing but external faults, unless it is external itself. -/
def Admits (body : Body) (fault : Fault) : Prop := body.RaisesExternal -> fault.IsExternal

theorem Allows.admits {body : Body} {fault : Fault} (allowed : body.Allows fault) :
    body.Admits fault := by
  intro external
  rcases allowed with failed | spoils | ⟨_, rfl⟩
  · exact external.reading fault failed
  · exact Fault.isExternal_of_spoilsOpening spoils
  · exact ⟨rfl, rfl⟩

theorem read_heeds_terms (size : Option Nat) : Heeds terms Allows (Body.read size) := by
  intro body
  rcases body with ⟨rest, failure, readCap, closeFault, closed, limits⟩
  unfold read
  cases closed with
  | true => exact ⟨rfl, .inr (.inr ⟨rfl, rfl⟩)⟩
  | false =>
      dsimp only
      rw [if_neg Bool.false_ne_true]
      split
      · rfl
      · rfl
      · split
        · exact ⟨rfl, .inl rfl⟩
        · rfl
      · rfl
      · exact ⟨rfl, .inl rfl⟩

end Body

namespace Gzip

open Body (Allows allows_of_spoilsOpening)

/-! ## Sources -/

namespace Source

/-- The terms of the body of a source. -/
def terms (source : Source) : Body := source.body.terms

theorem read_heeds_terms (size : Nat) : Heeds terms Allows (read size) := by
  intro source
  have ends := Body.read_heeds_terms (some (size - source.pending.length)) source.body
  unfold read
  split
  · rfl
  · split
    · rename_i result
      exact ends.of_ok result
    · rename_i result
      exact ends.of_error result

theorem complete_heeds_terms (rounds missing : Nat) (got : Bytes) :
    Heeds terms Allows (complete rounds missing got) := by
  have tooShort : forall shown : Body, shown.Allows truncated := allows_of_spoilsOpening rfl
  induction rounds generalizing missing got with
  | zero => exact Heeds.ite (.pure _) (.throw tooShort)
  | succ rounds inductionHypothesis =>
      refine Heeds.ite (.pure _) (Heeds.bind (read_heeds_terms _) fun chunk => ?_)
      exact Heeds.ite (.throw tooShort) (inductionHypothesis _ _)

theorem readExactly_heeds_terms (size : Nat) : Heeds terms Allows (readExactly size) :=
  Heeds.bind (read_heeds_terms size) fun _ => complete_heeds_terms _ _ _

theorem skipName_heeds_terms (rounds : Nat) : Heeds terms Allows (skipName rounds) := by
  induction rounds with
  | zero => exact .pure _
  | succ rounds inductionHypothesis =>
      rw [skipName_succ]
      exact Heeds.bind (read_heeds_terms 1) fun _ => Heeds.ite (.pure _) inductionHypothesis

theorem skipPadding_heeds_terms (rounds : Nat) : Heeds terms Allows (skipPadding rounds) := by
  induction rounds with
  | zero => exact .pure _
  | succ rounds inductionHypothesis =>
      rw [skipPadding_succ]
      refine Heeds.bind (read_heeds_terms 1) fun chunk => ?_
      exact Heeds.ite (.pure _) (Heeds.ite inductionHypothesis (.of_modify fun _ => rfl))

end Source

theorem throw_notGzip_heeds_terms {α : Type} (message : String) :
    Heeds Source.terms Allows (throw (notGzip message) : Attempt Source α) :=
  .throw (allows_of_spoilsOpening rfl)

theorem skipFields_heeds_terms (bound : Nat) (flags : UInt8) :
    Heeds Source.terms Allows (skipFields bound flags) := by
  have named : forall flag, Heeds Source.terms Allows (skipNameField bound flags flag) := fun flag =>
    Heeds.ite (Source.skipName_heeds_terms bound) (.pure _)
  rw [skipFields_eq]
  refine Heeds.bind (Heeds.ite ?_ (.pure _)) fun _ => ?_
  · refine Heeds.bind (Source.readExactly_heeds_terms 2) fun size => ?_
    exact Heeds.bind (Source.readExactly_heeds_terms _) fun _ => .pure _
  · refine Heeds.bind (named nameFlag) fun _ => Heeds.bind (named commentFlag) fun _ => ?_
    refine Heeds.ite ?_ (.pure _)
    exact Heeds.bind (Source.readExactly_heeds_terms 2) fun _ => .pure _

theorem readHeader_heeds_terms (bound : Nat) : Heeds Source.terms Allows (readHeader bound) := by
  refine Heeds.bind (Source.read_heeds_terms 2) fun start => ?_
  refine Heeds.ite (.pure _) (Heeds.ite (Heeds.bind (throw_notGzip_heeds_terms _) fun _ => ?_) ?_)
  all_goals
    refine Heeds.bind (Source.readExactly_heeds_terms 8) fun fixed => ?_
    refine Heeds.ite (Heeds.bind (throw_notGzip_heeds_terms _) fun _ => ?_) ?_
  all_goals exact Heeds.bind (skipFields_heeds_terms _ _) fun _ => .pure _

/-! ## Readers -/

namespace Reader

/-- The terms of the body of a reader. -/
def terms (reader : Reader) : Body := reader.source.terms

theorem onSource_heeds_terms {α : Type} {act : Attempt Source α}
    (heeds : Heeds Source.terms Allows act) : Heeds terms Allows (onSource act) := by
  intro reader
  have ends := heeds reader.source
  unfold onSource
  split
  · rename_i result
    exact ends.of_ok result
  · rename_i result
    exact ends.of_error result

theorem verify_heeds_terms (bound : Nat) (payload : Bytes) :
    Heeds Source.terms Allows (verify bound payload) := by
  refine Heeds.bind (Source.readExactly_heeds_terms 8) fun trailer => ?_
  have padding := Source.skipPadding_heeds_terms bound
  refine Heeds.ite (Heeds.bind (throw_notGzip_heeds_terms _) fun _ => ?_) ?_
  all_goals exact Heeds.ite (Heeds.bind (throw_notGzip_heeds_terms _) fun _ => padding) padding

theorem finishMember_heeds_terms (bound : Nat) : Heeds terms Allows (finishMember bound) := by
  refine Heeds.of_get fun reader => ?_
  split
  · exact .pure _
  · refine Heeds.ite ?_ (.pure _)
    refine Heeds.bind (onSource_heeds_terms (verify_heeds_terms _ _)) fun _ => ?_
    exact .of_modify fun _ => rfl

theorem enterMember_heeds_terms (bound : Nat) : Heeds terms Allows (enterMember bound) := by
  refine Heeds.of_get fun reader => ?_
  split
  · exact .pure _
  · refine Heeds.bind (onSource_heeds_terms (readHeader_heeds_terms bound)) fun found => ?_
    exact Heeds.ite (Heeds.bind (.of_modify fun _ => rfl) fun _ => .pure _) (.pure _)

theorem decompress_heeds_terms (limit : Nat) : Heeds terms Allows (decompress limit) := by
  refine Heeds.bind (onSource_heeds_terms (Source.read_heeds_terms chunkSize)) fun input => ?_
  intro reader
  dsimp only
  split
  · rfl
  · split
    · exact ⟨rfl, allows_of_spoilsOpening rfl _⟩
    · rfl

theorem readRounds_heeds_terms (bound limit rounds : Nat) :
    Heeds terms Allows (readRounds bound limit rounds) := by
  have tooShort : forall shown : Body, shown.Allows Source.truncated := allows_of_spoilsOpening rfl
  induction rounds with
  | zero => exact .throw tooShort
  | succ rounds inductionHypothesis =>
      refine Heeds.bind (finishMember_heeds_terms bound) fun _ => ?_
      refine Heeds.bind (enterMember_heeds_terms bound) fun found => Heeds.ite (.pure _) ?_
      refine Heeds.bind (decompress_heeds_terms limit) fun answer => Heeds.ite (.pure _) ?_
      exact Heeds.ite (Heeds.bind (.throw tooShort) fun _ => inductionHypothesis) inductionHypothesis

theorem read_heeds_terms (bound limit : Nat) : Heeds terms Allows (read bound limit) :=
  Heeds.ite (.pure _) (readRounds_heeds_terms bound limit bound)

end Reader

/-! ## Streams -/

namespace Stream

/-- The terms of the body of a stream. -/
def terms (stream : Stream) : Body := stream.reader.terms

theorem onReader_heeds_terms {α : Type} {act : Attempt Reader α}
    (heeds : Heeds Reader.terms Allows act) : Heeds terms Allows (onReader act) := by
  intro stream
  have ends := heeds stream.reader
  unfold onReader
  split
  · rename_i result
    exact ends.of_ok result
  · rename_i result
    exact ends.of_error result

theorem readBlocks_heeds_terms (bound rounds wanted : Nat) (got : List Bytes) :
    Heeds Reader.terms Allows (readBlocks bound rounds wanted got) := by
  induction rounds generalizing wanted got with
  | zero => exact .pure _
  | succ rounds inductionHypothesis =>
      refine Heeds.ite (.pure _) (Heeds.bind (Reader.read_heeds_terms _ _) fun chunk => ?_)
      exact Heeds.ite (.pure _) (inductionHypothesis _ _)

theorem fillBlock_heeds_terms (bound rounds wanted room : Nat) (got : List Bytes) :
    Heeds Reader.terms Allows (fillBlock bound rounds wanted got room) := by
  induction rounds generalizing wanted got room with
  | zero => exact .pure _
  | succ rounds inductionHypothesis =>
      refine Heeds.ite (.pure _) (Heeds.bind (Reader.read_heeds_terms _ _) fun chunk => ?_)
      exact Heeds.ite (.pure _) (inductionHypothesis _ _ _)

theorem drain_heeds_terms (bound rounds : Nat) (got : List Bytes) :
    Heeds Reader.terms Allows (drain bound rounds got) := by
  induction rounds generalizing got with
  | zero => exact .pure _
  | succ rounds inductionHypothesis =>
      refine Heeds.bind (Reader.read_heeds_terms _ _) fun chunk => ?_
      exact Heeds.ite (.pure _) (inductionHypothesis _)

theorem readUpTo_heeds_terms (size : Nat) : Heeds terms Allows (readUpTo size) := by
  intro stream
  by_cases enough : size ≤ stream.block.length
  · rw [readUpTo_of_enough enough]
    rfl
  · rw [readUpTo_of_short enough]
    refine Heeds.bind ?_ ?_ { stream with block := [] }
    · exact onReader_heeds_terms (readBlocks_heeds_terms _ _ _ _)
    · intro answer
      refine Heeds.ite (.pure _) (Heeds.bind ?_ fun _ => ?_)
      · exact onReader_heeds_terms (fillBlock_heeds_terms _ _ _ _ _)
      · exact Heeds.bind (.of_modify fun _ => rfl) fun _ => .pure _

theorem readAll_heeds_terms : Heeds terms Allows readAll := by
  intro stream
  refine Heeds.bind ?_ (fun _ => .pure _) { stream with block := [] }
  exact onReader_heeds_terms (drain_heeds_terms _ _ _)

/-- A read with a size of its own can also be refused for its size, or because the stream was closed. -/
theorem read_heeds_terms (size : Int) : Heeds terms Body.Admits (read size) := by
  refine Heeds.of_get fun stream => ?_
  have reads : Heeds terms Body.Admits (if size = -1 then readAll else readUpTo size.toNat) :=
    Heeds.ite (readAll_heeds_terms.weaken Body.Allows.admits)
      ((readUpTo_heeds_terms _).weaken Body.Allows.admits)
  have refused : forall message, Heeds terms Body.Admits (throw (.badValue message) : Attempt Stream PUnit) :=
    fun message => .throw fun _ _ => ⟨rfl, rfl⟩
  refine Heeds.ite (Heeds.bind (refused _) fun _ => ?_) ?_
  all_goals exact Heeds.ite (Heeds.bind (refused _) fun _ => reads) reads

theorem prime_heeds_terms : Heeds terms Allows prime := by
  refine Heeds.of_get fun stream => ?_
  refine Heeds.bind (onReader_heeds_terms (Reader.read_heeds_terms _ _)) fun chunk => ?_
  exact .of_modify fun _ => rfl

end Stream
end Gzip
end ObjectWatch
