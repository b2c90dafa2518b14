import ObjectWatch.Proofs.Gzip.Source
import ObjectWatch.Gzip.Reader

/-!
# What is read of a header and of a trailer

A header that is read from a source is the header of the format at the front of what is ahead.  If
reading it ends with an error, the body has failed, or the format has no header there.
-/

namespace ObjectWatch
namespace Gzip

open Source (Takes)

variable {failure : Option Fault} {more : Bytes}

/-! ## The fields that flags announce -/

/-- Skip the extra field, if it is announced. -/
def skipExtraField (flags : UInt8) : Attempt Source Unit := do
  if hasFlag flags extraFlag then
    let size <- Source.readExactly 2
    let _ <- Source.readExactly (Source.littleEndian size)

/-- Skip a name, if it is announced by the flag. -/
def skipNameField (bound : Nat) (flags flag : UInt8) : Attempt Source Unit := do
  if hasFlag flags flag then
    Source.skipName bound

/-- Skip the checksum of the header, if it is announced. -/
def skipChecksumField (flags : UInt8) : Attempt Source Unit := do
  if hasFlag flags checksumFlag then
    let _ <- Source.readExactly 2

theorem skipFields_eq (bound : Nat) (flags : UInt8) :
    skipFields bound flags = (do
      skipExtraField flags
      skipNameField bound flags nameFlag
      skipNameField bound flags commentFlag
      skipChecksumField flags) := by
  unfold skipFields skipExtraField skipNameField skipChecksumField
  cases hasFlag flags extraFlag <;> cases hasFlag flags nameFlag <;>
    cases hasFlag flags commentFlag <;>
    simp only [if_true, Bool.false_eq_true, if_false, bind_assoc, pure_bind]

/-- A part of a header was skipped, and the format knows what follows it. -/
def Skips (failure : Option Fault) (more : Bytes) (source : Source) (expected : Option Bytes)
    (after : Source) : Prop :=
  (exists taken, Takes failure more source taken after) ∧ expected = some (after.ahead ++ more)

/-- What is expected is not there: the body failed before, or the format refuses the data. -/
def Misses {α : Type} (failure : Option Fault) (expected : Option α) (error : Fault) : Prop :=
  failure = some error ∨ error.spoilsOpening = true ∧ expected = none

/-- A field that is too short for a source is too short for the format. -/
theorem Source.Short.missing {α : Type} {source : Source} {size : Nat} {error : Fault}
    {expected : Option α}
    (short : Source.Short failure source size error) (serves : source.body.Serves failure more)
    (refused : (source.ahead ++ more).length < size -> expected = none) :
    Misses failure expected error := by
  rcases short with failed | ⟨rfl, unfailing, few⟩
  · exact .inl failed
  · refine .inr ⟨rfl, refused ?_⟩
    rw [serves.whole unfailing, List.append_nil]
    exact few

/-- Bytes that were taken are in front of everything that was ahead. -/
theorem Source.Takes.front {source after : Source} {taken : Bytes}
    (takes : Takes failure more source taken after) :
    source.ahead ++ more = taken ++ (after.ahead ++ more) := by
  rw [← takes.ahead, List.append_assoc]

theorem afterExtra?_of_short {bytes : Bytes} (few : bytes.length < 2) : afterExtra? bytes = none := by
  match bytes, few with
  | [], _ => rfl
  | [_], _ => rfl

theorem afterExtra?_append {size rest : Bytes} (two : size.length = 2) :
    afterExtra? (size ++ rest) =
      if rest.length < Source.littleEndian size then none
      else some (rest.drop (Source.littleEndian size)) := by
  match size, two with
  | [low, high], _ => rfl

theorem skipExtraField_ends (flags : UInt8) {source : Source}
    (serves : source.body.Serves failure more) :
    Ends (skipExtraField flags source)
      (fun _ after => Skips failure more source (afterExtraField? flags (source.ahead ++ more)) after)
      (fun error _ => Misses failure (afterExtraField? flags (source.ahead ++ more)) error) := by
  unfold skipExtraField afterExtraField?
  cases hasFlag flags extraFlag with
  | false => exact ⟨⟨[], .refl serves⟩, rfl⟩
  | true =>
      rw [if_pos rfl, if_pos rfl]
      refine Ends.bind ((Source.readExactly_ends 2 serves).mono ?_ ?_)
      · rintro size middle ⟨two, takes⟩
        have front := takes.front
        refine Ends.bind ((Source.readExactly_ends _ takes.serves).mono ?_ ?_)
        · rintro extra after ⟨length, takesExtra⟩
          refine ⟨⟨_, takes.trans takesExtra⟩, ?_⟩
          rw [front, afterExtra?_append two, takesExtra.front, ← length, if_neg, List.drop_left]
          rw [List.length_append]
          omega
        · intro error after short
          refine short.missing takes.serves fun few => ?_
          rw [front, afterExtra?_append two, if_pos few]
      · intro error after short
        exact short.missing serves afterExtra?_of_short

theorem skipNameField_ends (bound : Nat) (flags flag : UInt8) {source : Source}
    (enough : source.remaining < bound) (serves : source.body.Serves failure more) :
    Ends (skipNameField bound flags flag source)
      (fun _ after => (exists taken, Takes failure more source taken after) ∧
        after.ahead ++ more = afterNameField flags flag (source.ahead ++ more))
      (fun error _ => failure = some error) := by
  unfold skipNameField afterNameField
  cases hasFlag flags flag with
  | false => exact ⟨⟨[], .refl serves⟩, rfl⟩
  | true =>
      rw [if_pos rfl, if_pos rfl]
      exact Source.skipName_ends bound enough serves

theorem afterChecksum?_of_short {bytes : Bytes} (few : bytes.length < 2) :
    afterChecksum? bytes = none := by
  match bytes, few with
  | [], _ => rfl
  | [_], _ => rfl

theorem skipChecksumField_ends (flags : UInt8) {source : Source}
    (serves : source.body.Serves failure more) :
    Ends (skipChecksumField flags source)
      (fun _ after =>
        Skips failure more source (afterChecksumField? flags (source.ahead ++ more)) after)
      (fun error _ => Misses failure (afterChecksumField? flags (source.ahead ++ more)) error) := by
  unfold skipChecksumField afterChecksumField?
  cases hasFlag flags checksumFlag with
  | false => exact ⟨⟨[], .refl serves⟩, rfl⟩
  | true =>
      rw [if_pos rfl, if_pos rfl]
      refine Ends.bind ((Source.readExactly_ends 2 serves).mono ?_ ?_)
      · rintro checksum after ⟨two, takes⟩
        refine ⟨⟨checksum, takes⟩, ?_⟩
        rw [takes.front]
        match checksum, two with
        | [_, _], _ => rfl
      · intro error after short
        exact short.missing serves afterChecksum?_of_short

theorem skipFields_ends (bound : Nat) (flags : UInt8) {source : Source}
    (enough : source.remaining < bound) (serves : source.body.Serves failure more) :
    Ends (skipFields bound flags source)
      (fun _ after => Skips failure more source (afterFields? flags (source.ahead ++ more)) after)
      (fun error _ => Misses failure (afterFields? flags (source.ahead ++ more)) error) := by
  rw [skipFields_eq, afterFields?_eq]
  refine Ends.bind ((skipExtraField_ends flags serves).mono ?_ ?_)
  · rintro _ second ⟨⟨firstTaken, first⟩, extra⟩
    have fewer := first.length_eq
    rw [extra, Option.bind_some]
    refine Ends.bind ((skipNameField_ends bound flags nameFlag (by omega) first.serves).mono ?_
      fun error after failed => .inl failed)
    rintro _ third ⟨⟨secondTaken, takesName⟩, named⟩
    have fewerStill := takesName.length_eq
    refine Ends.bind ((skipNameField_ends bound flags commentFlag (by omega) takesName.serves).mono
      ?_ fun error after failed => .inl failed)
    rintro _ fourth ⟨⟨thirdTaken, takesComment⟩, commented⟩
    refine (skipChecksumField_ends flags takesComment.serves).mono ?_ ?_
    · rintro _ after ⟨⟨fourthTaken, takesChecksum⟩, checked⟩
      rw [commented, named] at checked
      exact ⟨⟨_, first.trans (takesName.trans (takesComment.trans takesChecksum))⟩, checked⟩
    · intro error after misses
      rw [commented, named] at misses
      exact misses
  · intro error after misses
    rcases misses with failed | ⟨spoils, refused⟩
    · exact .inl failed
    · exact .inr ⟨spoils, by rw [refused, Option.bind_none]⟩

/-! ## Headers -/

/-- The source shows the first two bytes of a member: some were put back, or the body shows them. -/
def Source.Shows (failure : Option Fault) (source : Source) : Prop :=
  source.pending ≠ [] ∨ source.body.Shows failure

/-- A source at the end of data that does not fail shows that it has nothing. -/
theorem Source.shows_of_nothing {source : Source} (nothing : source.ahead = [])
    (unfailing : failure = none) : source.Shows failure :=
  .inr (.inl ⟨(List.append_eq_nil_iff.mp nothing).2, unfailing⟩)

/-- A source that shows the first bytes of a member shows two, if it has any. -/
theorem Source.Shows.showsTwo {source : Source} (shows : source.Shows failure)
    (nonempty : source.ahead ≠ []) : source.ShowsTwo := by
  rcases shows with pending | ⟨nothing, _⟩ | ⟨two, _⟩
  · exact .inl pending
  · refine .inl fun empty => nonempty ?_
    rw [ahead, empty, nothing]
    rfl
  · exact .inr two

theorem afterHeader?_of_start {start fixed rest : Bytes} (two : start.length = 2)
    (eight : fixed.length = 8) :
    afterHeader? (start ++ (fixed ++ rest)) =
      if start = magic ∧ fixed[0]? = some deflateMethod then afterFields? (fixed[1]?.getD 0) rest
      else none := by
  match start, two, fixed, eight with
  | [first, second], _, [method, flags, _, _, _, _, _, _], _ =>
      show (if [first, second] = magic ∧ method = deflateMethod then afterFields? flags rest
        else none) = _
      simp only [List.getElem?_cons_zero, Option.some.injEq, List.getElem?_cons_succ,
        Option.getD_some]

theorem afterHeader?_of_short {bytes : Bytes} (few : bytes.length < 10) : afterHeader? bytes = none := by
  refine Option.eq_none_iff_forall_ne_some.mpr fun rest found => ?_
  have := length_afterHeader?_lt found
  omega

theorem decode?_of_afterHeader?_eq_none {bytes : Bytes} (nonempty : bytes ≠ [])
    (refused : afterHeader? bytes = none) : decode? bytes = none := by
  refine Option.eq_none_iff_forall_ne_some.mpr fun content found => ?_
  rcases (decode?_eq_some_iff nonempty).mp found with ⟨first, rest, _, member, _, _⟩
  rcases member?_eq_some_iff.mp member with ⟨_, _, header, _, _⟩
  rw [refused] at header
  cases header

/-- Where something else than the magic bytes stands in front, there is no member. -/
theorem afterHeader?_of_other {failure : Option Fault} {more start : Bytes} {source after : Source}
    (brings : Source.Brings failure more source 2 start after) (nonempty : start ≠ [])
    (serves : source.body.Serves failure more) (shows : source.Shows failure)
    (other : start ≠ magic) : afterHeader? (source.ahead ++ more) = none := by
  refine Option.eq_none_iff_forall_ne_some.mpr fun rest found => ?_
  have long := length_afterHeader?_lt found
  rcases afterHeader?_eq_some_iff.mp found with ⟨flags, fixed, others, _, same, _⟩
  have something : source.ahead ≠ [] := by
    rw [← brings.takes.ahead]
    exact List.append_ne_nil_of_left_ne_nil nonempty _
  have served := brings.together (.inr ⟨rfl, shows.showsTwo something⟩)
  rcases Nat.lt_or_ge source.ahead.length 2 with single | two
  · -- a lone byte is all there is, or all that was asked for could not be shown
    have length : start.length = 1 := by
      have positive := List.length_pos_iff.mpr nonempty
      rw [served, List.length_take] at positive ⊢
      omega
    rcases brings.beyond with unfailing | size | beyond
    · rw [serves.whole unfailing, List.append_nil] at long
      omega
    · omega
    · rcases shows with pending | ⟨_, unfailing⟩ | ⟨_, unfailing | notAlone⟩
      · have := List.length_pos_iff.mpr pending
        omega
      · rw [serves.whole unfailing, List.append_nil] at long
        omega
      · rw [serves.whole unfailing, List.append_nil] at long
        omega
      · have parts := source.remaining_eq
        rw [Source.remaining] at parts
        have size : start.length = min 2 source.ahead.length := by rw [served, List.length_take]
        omega
  · refine other ?_
    rw [served, ← List.take_append_of_le_length two, same]
    rfl

/-- A member is entered where the format has one, and the data ends where nothing is left. -/
theorem readHeader_ends (bound : Nat) {source : Source} (enough : source.remaining < bound)
    (serves : source.body.Serves failure more) (shows : source.Shows failure) :
    Ends (readHeader bound source)
      (fun found after =>
        (found = false ∧ source.ahead ++ more = [] ∧ failure = none ∧
          Takes failure more source [] after) ∨
        (found = true ∧ after.remaining + 10 ≤ source.remaining ∧
          Skips failure more source (afterHeader? (source.ahead ++ more)) after))
      (fun error _ => Misses failure (decode? (source.ahead ++ more)) error) := by
  unfold readHeader
  refine Ends.bind ((Source.read_ends serves 2).mono ?_ fun error after failed => .inl failed)
  intro start second brings
  by_cases nothing : start = []
  · subst nothing
    rcases (brings.exhausted rfl).resolve_left (by decide) with ⟨empty, unfailing⟩
    rw [if_pos rfl]
    exact .inl ⟨rfl, by rw [empty, serves.whole unfailing]; rfl, unfailing, brings.takes⟩
  have front := brings.takes.front
  have nonempty : source.ahead ++ more ≠ [] := by
    rw [front]
    exact List.append_ne_nil_of_left_ne_nil nothing _
  rw [if_neg nothing]
  by_cases other : start ≠ magic
  · have refused := afterHeader?_of_other brings nothing serves shows other
    simp only [if_pos other]
    exact .inr ⟨rfl, decode?_of_afterHeader?_eq_none nonempty refused⟩
  simp only [if_neg other]
  have begins : start = magic := Decidable.not_not.mp other
  have two : start.length = 2 := by rw [begins]; rfl
  refine Ends.bind ((Source.readExactly_ends 8 brings.takes.serves).mono ?_ ?_)
  · rintro fixed third ⟨eight, takesFixed⟩
    rw [takesFixed.front] at front
    have fewer := brings.takes.length_eq
    have fewerStill := takesFixed.length_eq
    have header := @afterHeader?_of_start start fixed (third.ahead ++ more) two eight
    by_cases unknown : fixed[0]? ≠ some deflateMethod
    · simp only [if_pos unknown]
      refine .inr ⟨rfl, decode?_of_afterHeader?_eq_none nonempty ?_⟩
      rw [front, header, if_neg (fun known => unknown known.2)]
    simp only [if_neg unknown]
    rw [if_pos ⟨begins, Decidable.not_not.mp unknown⟩, ← front] at header
    refine Ends.bind ((skipFields_ends bound _ (by omega) takesFixed.serves).mono ?_ ?_)
    · rintro _ after ⟨⟨taken, takesFields⟩, fields⟩
      have fewest := takesFields.length_eq
      exact .inr ⟨rfl, by omega,
        ⟨_, brings.takes.trans (takesFixed.trans takesFields)⟩, header.trans fields⟩
    · intro error after misses
      rcases misses with failed | ⟨spoils, refused⟩
      · exact .inl failed
      · exact .inr ⟨spoils, decode?_of_afterHeader?_eq_none nonempty (header.trans refused)⟩
  · intro error after short
    refine short.missing brings.takes.serves fun few => ?_
    refine decode?_of_afterHeader?_eq_none nonempty (afterHeader?_of_short ?_)
    rw [front, List.length_append, two]
    omega

/-! ## Trailers -/

theorem isTrailer_iff {content trailer : Bytes} (eight : trailer.length = 8) :
    isTrailer content trailer = true ↔
      Source.littleEndian (trailer.take 4) = (Checksum.crc32 content).toNat ∧
        Source.littleEndian (trailer.drop 4) = content.length % lengthModulus := by
  simp only [isTrailer, eight, Bool.and_eq_true, beq_iff_eq, true_and]

/-- A member that has ended is left where its trailer belongs to what was decoded. -/
theorem verify_ends (bound : Nat) (payload : Bytes) {source : Source}
    (enough : source.remaining < bound) (serves : source.body.Serves failure more) :
    Ends (Reader.verify bound payload source)
      (fun _ after => after.remaining + 8 ≤ source.remaining ∧ after.body.Serves failure more ∧
        after.Shows failure ∧
        exists rest, afterTrailer? payload (source.ahead ++ more) = some rest ∧
          after.ahead ++ more = rest.dropWhile (· == 0))
      (fun error _ => Misses failure (afterTrailer? payload (source.ahead ++ more)) error) := by
  unfold Reader.verify
  refine Ends.bind ((Source.readExactly_ends 8 serves).mono ?_ ?_)
  · rintro trailer second ⟨eight, takes⟩
    have front := takes.front
    have fewer := takes.length_eq
    have split : afterTrailer? payload (source.ahead ++ more) =
        if isTrailer payload trailer then some (second.ahead ++ more) else none := by
      rw [front, afterTrailer?, ← eight, List.take_left, List.drop_left]
    have belongs := @isTrailer_iff payload trailer eight
    by_cases otherSum : Source.littleEndian (trailer.take 4) ≠ (Checksum.crc32 payload).toNat
    · simp only [if_pos otherSum]
      refine .inr ⟨rfl, ?_⟩
      rw [split, if_neg (fun fits => otherSum (belongs.mp fits).1)]
    simp only [if_neg otherSum]
    by_cases otherSize : Source.littleEndian (trailer.drop 4) ≠ payload.length % lengthModulus
    · simp only [if_pos otherSize]
      refine .inr ⟨rfl, ?_⟩
      rw [split, if_neg (fun fits => otherSize (belongs.mp fits).2)]
    simp only [if_neg otherSize]
    rw [if_pos (belongs.mpr ⟨Decidable.not_not.mp otherSum, Decidable.not_not.mp otherSize⟩)] at split
    refine (Source.skipPadding_ends bound (by omega) takes.serves).mono ?_
      fun error after failed => .inl failed
    rintro _ after ⟨⟨padding, takesPadding⟩, padded, shown⟩
    have fewest := takesPadding.length_eq
    refine ⟨by omega, takesPadding.serves, ?_, _, split, padded⟩
    rcases shown with ⟨nothing, unfailing⟩ | pending
    · exact Source.shows_of_nothing nothing unfailing
    · exact .inl pending
  · intro error after short
    refine short.missing serves fun few => ?_
    refine Option.eq_none_iff_forall_ne_some.mpr fun rest found => ?_
    unfold afterTrailer? at found
    split at found
    · rename_i fits
      have := length_of_isTrailer fits
      omega
    · cases found

end Gzip
end ObjectWatch
