import ObjectWatch.Proofs.Attempt
import ObjectWatch.Proofs.Gzip.Members

/-!
# What is read from a source

A source serves the bytes that are ahead of it in order, however its body splits them.  A body that
fails when it is used up leaves `more` bytes unserved; a body without a failure serves everything.  Two
bytes come together if some were put back, and else if the body can serve two now.

Every operation on a source either takes some bytes from what is ahead, or it ends with the failure of
the body, or the bytes themselves are too few or not what they should be.  The statements compare the
operations with the format on the bytes ahead together with those that are not served, so a failing
body is never mistaken for a content that ends.
-/

namespace ObjectWatch

/-- A body that is open, serves something whenever it is asked, and ends as given: with a failure in
front of the bytes `more`, or without any. -/
structure Body.Serves (failure : Option Fault) (more : Bytes) (body : Body) : Prop where
  opened : body.closed = false
  fails : body.failure = failure
  flows : forall cap, body.readCap = some cap -> 0 < cap
  whole : failure = none -> more = []

/-- A body that ends as given shows the first two bytes of a member, if there are two, or shows that it
has none.  A body that serves one byte at first does not, and neither does one that fails after its first
byte: the byte is read alone and taken for the whole of the data. -/
def Body.Shows (failure : Option Fault) (body : Body) : Prop :=
  body.rest = [] ∧ failure = none ∨ 2 ≤ body.capped 2 ∧ (failure = none ∨ body.rest.length ≠ 1)

namespace Gzip

variable {failure : Option Fault} {more : Bytes}

namespace Source

/-- The bytes that are served next. -/
def ahead (source : Source) : Bytes := source.pending ++ source.body.rest

theorem remaining_eq (source : Source) : source.remaining = source.ahead.length := by
  rw [remaining, ahead, List.length_append]

/-- A source after some bytes were taken. -/
structure Takes (failure : Option Fault) (more : Bytes) (source : Source) (taken : Bytes)
    (after : Source) : Prop where
  serves : after.body.Serves failure more
  ahead : taken ++ after.ahead = source.ahead

namespace Takes

variable {source middle after : Source} {taken others : Bytes}

protected theorem refl (serves : source.body.Serves failure more) :
    Takes failure more source [] source :=
  ⟨serves, rfl⟩

theorem trans (first : Takes failure more source taken middle)
    (second : Takes failure more middle others after) :
    Takes failure more source (taken ++ others) after :=
  ⟨second.serves, by rw [List.append_assoc, second.ahead, first.ahead]⟩

theorem length_eq (takes : Takes failure more source taken after) :
    taken.length + after.remaining = source.remaining := by
  rw [remaining_eq, remaining_eq, ← takes.ahead, List.length_append]

end Takes

/-! ## Single reads -/

end Source
end Gzip

namespace Body

variable {failure : Option Fault} {more : Bytes} {body : Body}

/-- A read of a positive size, from a body that is open. -/
theorem read_of_open (opened : body.closed = false) {size : Nat} (positive : 0 < size) :
    body.read (some size) =
      if body.rest = [] then
        match body.failure with
        | some fault => .error fault body
        | none => .ok [] body
      else .ok (body.serve (body.capped size)).1 (body.serve (body.capped size)).2 := by
  rcases body with ⟨rest, failure, readCap, closeFault, closed, limits⟩
  rcases Nat.exists_eq_add_of_lt positive with ⟨size, rfl⟩
  dsimp only at opened
  subst opened
  cases failure with
  | some fault => rfl
  | none =>
      cases rest with
      | nil => simp [read, serve, capped]
      | cons byte rest => rfl

/-- No read serves more than it was asked for. -/
theorem capped_le (body : Body) (size : Nat) : body.capped size ≤ size := by
  unfold capped
  cases body.readCap <;> cases body.limits body.rest.length <;> (dsimp only; omega)

/-- A read of a positive size may serve something, unless the body serves nothing at all. -/
theorem capped_positive (flows : forall cap, body.readCap = some cap -> 0 < cap) {size : Nat}
    (positive : 0 < size) : 0 < body.capped size := by
  unfold capped
  cases capped : body.readCap with
  | none =>
      cases body.limits body.rest.length with
      | none => exact positive
      | some limit => exact Nat.lt_min.mpr ⟨positive, limit.property⟩
  | some cap =>
      have most := Nat.lt_min.mpr ⟨positive, flows cap capped⟩
      cases body.limits body.rest.length with
      | none => exact most
      | some limit => exact Nat.lt_min.mpr ⟨most, limit.property⟩

/-- A read that is limited serves no more than its limit. -/
theorem capped_of_limit (uncapped : body.readCap = none) {limit size : Nat} {positive : 0 < limit}
    (limited : body.limits body.rest.length = some ⟨limit, positive⟩) (small : limit ≤ size) :
    body.capped size = limit := by
  unfold capped
  rw [uncapped, limited]
  exact Nat.min_eq_right small

/-- A body that serves nothing at all serves nothing now. -/
theorem capped_of_stuck (stuck : body.readCap = some 0) (size : Nat) : body.capped size = 0 := by
  unfold capped
  rw [stuck]
  cases body.limits body.rest.length with
  | none => exact Nat.min_zero size
  | some limit => exact Nat.le_zero.mp (Nat.le_trans (Nat.min_le_left _ _) (Nat.min_le_right _ _))

/-- A body that can serve two bytes now always serves something. -/
theorem flows_of_showsTwo (showsTwo : 2 ≤ body.capped 2) (cap : Nat) (capped : body.readCap = some cap) :
    0 < cap := by
  refine Nat.pos_of_ne_zero fun zero => ?_
  subst zero
  rw [capped_of_stuck capped] at showsTwo
  exact absurd showsTwo (by decide)

theorem Serves.serve (serves : body.Serves failure more) (count : Nat) :
    (body.serve count).2.Serves failure more :=
  ⟨serves.opened, serves.fails, serves.flows, serves.whole⟩

end Body

namespace Gzip

variable {failure : Option Fault} {more : Bytes}

namespace Source

theorem body_read_ends {body : Body} (serves : body.Serves failure more) {size : Nat}
    (positive : 0 < size) :
    Ends (body.read (some size))
      (fun chunk after => after.Serves failure more ∧ chunk ++ after.rest = body.rest ∧
        chunk.length ≤ size ∧ (chunk = [] -> body.rest = [] ∧ failure = none) ∧
        (size ≤ body.capped size -> chunk = body.rest.take size))
      (fun error _ => failure = some error) := by
  rw [Body.read_of_open serves.opened positive]
  by_cases empty : body.rest = []
  · rw [if_pos empty, serves.fails]
    cases failure with
    | some fault => exact rfl
    | none => exact ⟨serves, rfl, Nat.zero_le _, fun _ => ⟨empty, rfl⟩,
        fun _ => by rw [empty, List.take_nil]⟩
  · have served := Body.capped_positive serves.flows positive
    have limited := body.capped_le size
    rw [if_neg empty]
    refine ⟨serves.serve _, body.serve_append _, ?_, fun nothing => ?_, fun whole => ?_⟩
    · exact Nat.le_trans (List.length_take_le _ _) limited
    · rcases List.take_eq_nil_iff.mp nothing with zero | nothing
      · omega
      · exact absurd nothing empty
    · show body.rest.take (body.capped size) = _
      rw [Nat.le_antisymm limited whole]

/-- Two bytes are shown together: some were put back, or the body can serve two. -/
def ShowsTwo (source : Source) : Prop := source.pending ≠ [] ∨ 2 ≤ source.body.capped 2

/-- What a read brings. -/
structure Brings (failure : Option Fault) (more : Bytes) (source : Source) (size : Nat)
    (chunk : Bytes) (after : Source) : Prop where
  takes : Takes failure more source chunk after
  limited : chunk.length ≤ size
  exhausted : chunk = [] -> size = 0 ∨ source.ahead = [] ∧ failure = none
  /-- A single byte is shown, and so are two together if the source shows two. -/
  together : size ≤ 1 ∨ size = 2 ∧ source.ShowsTwo -> chunk = source.ahead.take size
  /-- A body that fails when it is used up has served something, if it was asked. -/
  beyond : failure = none ∨ chunk.length = size ∨ source.pending.length < chunk.length

/-- A source without pending bytes serves what its body serves. -/
theorem read_of_body_read {body after : Body} {size : Nat} {chunk : Bytes}
    (served : body.read (some size) = .ok chunk after) :
    read size ⟨[], body⟩ = .ok chunk ⟨[], after⟩ := by
  have served : body.read (some (size - 0)) = .ok chunk after := served
  rw [read, if_neg (fun enough => enough.2 rfl)]
  dsimp only [List.length_nil]
  rw [served]
  rfl

/-- Bytes are taken from what was put back and then from the body. -/
theorem read_ends {source : Source} (serves : source.body.Serves failure more) (size : Nat) :
    Ends (read size source) (Brings failure more source size) (fun error _ => failure = some error) := by
  rcases source with ⟨pending, body⟩
  rw [read]
  by_cases enough : size ≤ pending.length ∧ pending ≠ []
  · rw [if_pos enough]
    refine ⟨⟨serves, ?_⟩, List.length_take_le _ _, fun nothing => ?_, fun _ => ?_, .inr (.inl ?_)⟩
    · show pending.take size ++ (pending.drop size ++ body.rest) = pending ++ body.rest
      rw [← List.append_assoc, List.take_append_drop]
    · rcases List.take_eq_nil_iff.mp nothing with zero | empty
      · exact .inl zero
      · exact absurd empty enough.2
    · exact (List.take_append_of_le_length enough.1).symm
    · exact List.length_take_of_le enough.1
  · rw [if_neg enough]
    by_cases nothing : size = 0
    · subst nothing
      have empty : pending = [] := by
        refine Decidable.not_not.mp fun nonempty => enough ⟨Nat.zero_le _, nonempty⟩
      subst empty
      have idle : body.read (some 0) = .ok [] body := by
        have opened : body.closed = false := serves.opened
        simp only [Body.read, opened]
        rfl
      dsimp only [List.length_nil]
      rw [Nat.sub_zero, idle]
      exact ⟨⟨serves, rfl⟩, Nat.le_refl _, fun _ => .inl rfl, fun _ => rfl, .inr (.inl rfl)⟩
    · have positive : 0 < size - pending.length := by
        rcases Nat.lt_or_ge pending.length size with short | long
        · omega
        · have empty : pending = [] :=
            Decidable.not_not.mp fun nonempty => enough ⟨long, nonempty⟩
          rw [empty, List.length_nil] at long
          omega
      have ends := body_read_ends serves positive
      dsimp only
      cases result : body.read (some (size - pending.length)) with
      | error error after => exact ends.of_error result
      | ok chunk after =>
          rcases ends.of_ok result with ⟨servesAfter, split, limited, exhausted, shown⟩
          refine ⟨⟨servesAfter, ?_⟩, ?_, fun empty => ?_, fun small => ?_, ?_⟩
          · show pending ++ chunk ++ ([] ++ after.rest) = pending ++ body.rest
            rw [List.nil_append, List.append_assoc, split]
          · rw [List.length_append]
            omega
          · rcases List.append_eq_nil_iff.mp empty with ⟨noPending, noChunk⟩
            rcases exhausted noChunk with ⟨noRest, unfailing⟩
            exact .inr ⟨by rw [ahead, noPending, noRest]; rfl, unfailing⟩
          · show pending ++ chunk = (pending ++ body.rest).take size
            have whole : pending.take size = pending := List.take_of_length_le (by omega)
            have one := Body.capped_positive serves.flows Nat.one_pos
            rw [shown ?_, List.take_append, whole]
            rcases small with atMostOne | ⟨rfl, shows⟩
            · rwa [show size - pending.length = 1 by omega]
            · rcases Nat.eq_zero_or_pos pending.length with none | put
              · rw [none]
                exact shows.resolve_left fun put => put (List.length_eq_zero_iff.mp none)
              · rwa [show 2 - pending.length = 1 by omega]
          · by_cases noChunk : chunk = []
            · exact .inl (exhausted noChunk).2
            · right
              right
              have served := List.length_pos_iff.mpr noChunk
              show pending.length < (pending ++ chunk).length
              rw [List.length_append]
              omega

/-! ## Fields and names -/

/-- Why a field could not be read: the body failed, or the data ends before it. -/
def Short (failure : Option Fault) (source : Source) (size : Nat) (error : Fault) : Prop :=
  failure = some error ∨ error = truncated ∧ failure = none ∧ source.ahead.length < size

theorem complete_ends (rounds missing : Nat) (enough : missing ≤ rounds) (got : Bytes)
    {source : Source} (serves : source.body.Serves failure more) :
    Ends (complete rounds missing got source)
      (fun field after => exists rest, field = got ++ rest ∧ rest.length = missing ∧
        Takes failure more source rest after)
      (fun error _ => Short failure source missing error) := by
  induction rounds generalizing missing got source with
  | zero =>
      have nothing : missing = 0 := by omega
      rw [complete, if_pos nothing]
      exact ⟨[], (List.append_nil got).symm, nothing.symm, .refl serves⟩
  | succ rounds inductionHypothesis =>
      rw [complete]
      by_cases nothing : missing = 0
      · rw [if_pos nothing]
        exact ⟨[], (List.append_nil got).symm, nothing.symm, .refl serves⟩
      · rw [if_neg nothing]
        refine Ends.bind ((read_ends serves missing).mono ?_ fun error after failed => .inl failed)
        rintro chunk middle ⟨takes, limited, exhausted, _, _⟩
        have split := takes.length_eq
        rw [remaining_eq, remaining_eq] at split
        by_cases empty : chunk = []
        · rcases exhausted empty with zero | ⟨noneAhead, unfailing⟩
          · exact absurd zero nothing
          · subst empty
            refine .inr ⟨rfl, unfailing, ?_⟩
            rw [noneAhead]
            exact Nat.pos_of_ne_zero nothing
        · have nonempty : chunk.isEmpty = false := by
            rw [List.isEmpty_eq_false_iff]
            exact empty
          have positive : 0 < chunk.length := List.length_pos_iff.mpr empty
          simp only [nonempty, Bool.false_eq_true, if_false]
          refine (inductionHypothesis (missing - chunk.length) (by omega) (got ++ chunk)
            takes.serves).mono ?_ ?_
          · rintro field after ⟨rest, same, size, later⟩
            refine ⟨chunk ++ rest, by rw [same, List.append_assoc], ?_, takes.trans later⟩
            rw [List.length_append]
            omega
          · intro error after misses
            rcases misses with failed | ⟨same, unfailing, short⟩
            · exact .inl failed
            · exact .inr ⟨same, unfailing, by omega⟩

/-- A field is taken whole. -/
theorem readExactly_ends (size : Nat) {source : Source} (serves : source.body.Serves failure more) :
    Ends (readExactly size source)
      (fun field after => field.length = size ∧ Takes failure more source field after)
      (fun error _ => Short failure source size error) := by
  rw [readExactly]
  refine Ends.bind ((read_ends serves size).mono ?_ fun error after failed => .inl failed)
  rintro chunk middle ⟨takes, limited, _, _, _⟩
  have split := takes.length_eq
  rw [remaining_eq, remaining_eq] at split
  refine (complete_ends _ _ (Nat.le_refl _) chunk takes.serves).mono ?_ ?_
  · rintro field after ⟨rest, same, length, later⟩
    subst same
    refine ⟨?_, takes.trans later⟩
    rw [List.length_append]
    omega
  · intro error after misses
    rcases misses with failed | ⟨same, unfailing, short⟩
    · exact .inl failed
    · exact .inr ⟨same, unfailing, by omega⟩

/-- A single byte is there, or the data has ended. -/
theorem read_one_ends {source : Source} (serves : source.body.Serves failure more) :
    Ends (read 1 source)
      (fun chunk after =>
        (chunk = [] ∧ source.ahead ++ more = [] ∧ failure = none ∧
          Takes failure more source [] after) ∨
        exists byte, chunk = [byte] ∧ Takes failure more source [byte] after)
      (fun error _ => failure = some error) := by
  refine (read_ends serves 1).mono ?_ (fun error after failed => failed)
  rintro chunk after ⟨takes, _, exhausted, together, _⟩
  have single := together (.inl (Nat.le_refl 1))
  cases served : source.ahead with
  | nil =>
      rw [served, List.take_nil] at single
      subst single
      rcases (exhausted rfl).resolve_left Nat.one_ne_zero with ⟨_, unfailing⟩
      exact .inl ⟨rfl, by rw [serves.whole unfailing]; rfl, unfailing, takes⟩
  | cons byte rest =>
      rw [served] at single
      subst single
      exact .inr ⟨byte, rfl, takes⟩

theorem afterName_cons (byte : UInt8) (rest : Bytes) :
    afterName (byte :: rest) = if byte = 0 then rest else afterName rest := by
  by_cases zero : byte = 0
  · subst zero
    rfl
  · have other : (byte != 0) = true := bne_iff_ne.mpr zero
    rw [if_neg zero, afterName, List.dropWhile_cons, if_pos other]
    rfl

theorem Takes.ahead_cons {source after : Source} {byte : UInt8}
    (takes : Takes failure more source [byte] after) :
    source.ahead ++ more = byte :: (after.ahead ++ more) := by
  rw [← takes.ahead]
  rfl

theorem skipName_succ (rounds : Nat) :
    skipName (rounds + 1) = (do
      let chunk <- read 1
      if chunk.headD 0 = 0 then pure () else skipName rounds) := by
  rw [skipName]
  refine congrArg _ (funext fun chunk => ?_)
  split
  · rfl
  · rfl
  · rename_i notNil notZero
    match chunk, notNil, notZero with
    | byte :: rest, _, notZero =>
        have zero : ¬ byte = 0 := fun zero => notZero rest (by rw [zero])
        exact (if_neg zero).symm

theorem skipName_ends (rounds : Nat) {source : Source} (enough : source.remaining < rounds)
    (serves : source.body.Serves failure more) :
    Ends (skipName rounds source)
      (fun _ after => (exists taken, Takes failure more source taken after) ∧
        after.ahead ++ more = afterName (source.ahead ++ more))
      (fun error _ => failure = some error) := by
  induction rounds generalizing source with
  | zero => exact absurd enough (Nat.not_lt_zero _)
  | succ rounds inductionHypothesis =>
      rw [skipName_succ]
      refine Ends.bind ((read_one_ends serves).mono ?_ fun error after failed => failed)
      intro chunk middle served
      rcases served with ⟨rfl, nothing, _, takes⟩ | ⟨byte, rfl, takes⟩
      · have same : middle.ahead ++ more = source.ahead ++ more := by
          rw [← takes.ahead]
          rfl
        refine ⟨⟨[], takes⟩, ?_⟩
        rw [same, nothing]
        rfl
      · have fewer := takes.length_eq
        rw [List.length_singleton] at fewer
        rw [takes.ahead_cons, afterName_cons, List.headD_cons]
        by_cases zero : byte = 0
        · rw [if_pos zero, if_pos zero]
          exact ⟨⟨[byte], takes⟩, rfl⟩
        · rw [if_neg zero, if_neg zero]
          refine (inductionHypothesis (by omega) takes.serves).mono ?_ fun error after failed =>
            failed
          rintro _ after ⟨⟨taken, later⟩, named⟩
          exact ⟨⟨byte :: taken, takes.trans later⟩, named⟩

theorem skipPadding_succ (rounds : Nat) :
    skipPadding (rounds + 1) = (do
      let chunk <- read 1
      if chunk = [] then pure ()
      else if chunk.headD 0 = 0 then skipPadding rounds
      else pushBack chunk) := by
  rw [skipPadding]
  refine congrArg _ (funext fun chunk => ?_)
  split
  · rfl
  · rfl
  · rename_i notNil notZero
    match chunk, notNil, notZero with
    | byte :: rest, _, notZero =>
        have zero : ¬ byte = 0 := fun zero => notZero rest (by rw [zero])
        rw [if_neg (List.cons_ne_nil byte rest)]
        exact (if_neg zero).symm

/-- Zero bytes are skipped, and the byte that ends them is put back.  Without such a byte the data has
ended. -/
theorem skipPadding_ends (rounds : Nat) {source : Source} (enough : source.remaining < rounds)
    (serves : source.body.Serves failure more) :
    Ends (skipPadding rounds source)
      (fun _ after => (exists taken, Takes failure more source taken after) ∧
        after.ahead ++ more = (source.ahead ++ more).dropWhile (· == 0) ∧
        (after.ahead = [] ∧ failure = none ∨ after.pending ≠ []))
      (fun error _ => failure = some error) := by
  induction rounds generalizing source with
  | zero => exact absurd enough (Nat.not_lt_zero _)
  | succ rounds inductionHypothesis =>
      rw [skipPadding_succ]
      refine Ends.bind ((read_one_ends serves).mono ?_ fun error after failed => failed)
      intro chunk middle served
      rcases served with ⟨rfl, nothing, unfailing, takes⟩ | ⟨byte, rfl, takes⟩
      · have same : middle.ahead ++ more = source.ahead ++ more := by
          rw [← takes.ahead]
          rfl
        have ended : middle.ahead = [] :=
          (List.append_eq_nil_iff.mp (same.trans nothing)).1
        refine ⟨⟨[], takes⟩, ?_, .inl ⟨ended, unfailing⟩⟩
        rw [same, nothing]
        rfl
      · have fewer := takes.length_eq
        rw [List.length_singleton] at fewer
        rw [takes.ahead_cons, List.dropWhile_cons, if_neg (List.cons_ne_nil byte []),
          List.headD_cons]
        by_cases zero : byte = 0
        · have padded : (byte == 0) = true := beq_iff_eq.mpr zero
          rw [if_pos zero, if_pos padded]
          refine (inductionHypothesis (by omega) takes.serves).mono ?_ fun error after failed =>
            failed
          rintro _ after ⟨⟨taken, later⟩, rest⟩
          exact ⟨⟨byte :: taken, takes.trans later⟩, rest⟩
        · have ended : ¬ (byte == 0) = true := fun same => zero (beq_iff_eq.mp same)
          rw [if_neg zero, if_neg ended]
          exact ⟨⟨[], takes.serves, takes.ahead⟩, rfl, .inr (List.cons_ne_nil byte _)⟩

end Source
end Gzip
end ObjectWatch
