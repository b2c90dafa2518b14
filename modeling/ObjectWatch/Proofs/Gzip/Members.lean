import ObjectWatch.Proofs.Deflate.Boundary
import ObjectWatch.Gzip.Member

/-!
# Members, one after another

A member takes bytes from the front and leaves the others, so a file is read member by member, and
the rounds that its bytes allow are enough.

A member that is complete is the same member whatever follows it.  No part of a single member is
therefore a gzip file: a member at its beginning would be the whole of it.
-/

namespace ObjectWatch
namespace Gzip

/-! ## The fields of a header -/

/-- What follows the extra field, if it is announced. -/
def afterExtraField? (flags : UInt8) (bytes : Bytes) : Option Bytes :=
  if hasFlag flags extraFlag then afterExtra? bytes else some bytes

/-- What follows a name, if it is announced by the flag. -/
def afterNameField (flags flag : UInt8) (bytes : Bytes) : Bytes :=
  if hasFlag flags flag then afterName bytes else bytes

/-- What follows the checksum of the header, if it is announced. -/
def afterChecksumField? (flags : UInt8) (bytes : Bytes) : Option Bytes :=
  if hasFlag flags checksumFlag then afterChecksum? bytes else some bytes

theorem afterFields?_eq (flags : UInt8) (bytes : Bytes) :
    afterFields? flags bytes = (afterExtraField? flags bytes).bind fun rest =>
      afterChecksumField? flags
        (afterNameField flags commentFlag (afterNameField flags nameFlag rest)) := by
  unfold afterFields? afterExtraField?
  cases hasFlag flags extraFlag with
  | false => rfl
  | true => rfl

theorem length_afterExtraField?_le {flags : UInt8} {bytes rest : Bytes}
    (found : afterExtraField? flags bytes = some rest) : rest.length ≤ bytes.length := by
  unfold afterExtraField? at found
  split at found
  · unfold afterExtra? at found
    split at found
    · dsimp only at found
      split at found
      · cases found
      · cases found
        rw [List.length_drop, List.length_cons, List.length_cons]
        omega
    · cases found
  · cases found
    exact Nat.le_refl _

theorem length_afterNameField_le (flags flag : UInt8) (bytes : Bytes) :
    (afterNameField flags flag bytes).length ≤ bytes.length := by
  rw [afterNameField]
  split
  · have := (@List.dropWhile_suffix _ bytes (· != 0)).length_le
    rw [afterName, List.length_drop]
    omega
  · exact Nat.le_refl _

theorem length_afterChecksumField?_le {flags : UInt8} {bytes rest : Bytes}
    (found : afterChecksumField? flags bytes = some rest) : rest.length ≤ bytes.length := by
  unfold afterChecksumField? at found
  split at found
  · unfold afterChecksum? at found
    split at found
    · cases found
      simp only [List.length_cons]
      omega
    · cases found
  · cases found
    exact Nat.le_refl _

theorem afterExtraField?_append {flags : UInt8} {bytes rest : Bytes}
    (found : afterExtraField? flags bytes = some rest) (more : Bytes) :
    afterExtraField? flags (bytes ++ more) = some (rest ++ more) := by
  unfold afterExtraField? at found ⊢
  split at found
  · rename_i announced
    rw [if_pos announced]
    unfold afterExtra? at found
    split at found
    · rename_i low high others
      dsimp only at found
      split at found
      · cases found
      · rename_i fits
        cases found
        have fitsMore : ¬ (others ++ more).length < Source.littleEndian [low, high] := by
          rw [List.length_append]
          omega
        show (if (others ++ more).length < _ then none else some ((others ++ more).drop _)) = _
        rw [if_neg fitsMore, List.drop_append_of_le_length (by omega)]
    · cases found
  · rename_i unannounced
    cases found
    rw [if_neg unannounced]

/-- A name that ends before the file does ends in the same place when the file is longer. -/
theorem afterNameField_append {flags flag : UInt8} {bytes : Bytes}
    (followed : afterNameField flags flag bytes ≠ []) (more : Bytes) :
    afterNameField flags flag (bytes ++ more) = afterNameField flags flag bytes ++ more := by
  unfold afterNameField at followed ⊢
  split at followed
  · rename_i announced
    rw [if_pos announced, if_pos announced]
    unfold afterName at followed ⊢
    cases named : bytes.dropWhile (· != 0) with
    | nil =>
        rw [named] at followed
        exact absurd rfl followed
    | cons zero rest =>
        rw [List.dropWhile_append, named]
        rfl
  · rename_i unannounced
    rw [if_neg unannounced, if_neg unannounced]

theorem afterChecksumField?_append {flags : UInt8} {bytes rest : Bytes}
    (found : afterChecksumField? flags bytes = some rest) (more : Bytes) :
    afterChecksumField? flags (bytes ++ more) = some (rest ++ more) := by
  unfold afterChecksumField? at found ⊢
  split at found
  · rename_i announced
    rw [if_pos announced]
    unfold afterChecksum? at found
    split at found
    · cases found
      rfl
    · cases found
  · rename_i unannounced
    cases found
    rw [if_neg unannounced]

theorem afterNameField_nil (flags flag : UInt8) : afterNameField flags flag [] = [] := by
  rw [afterNameField]
  split <;> rfl

theorem length_afterFields?_le {flags : UInt8} {bytes rest : Bytes}
    (found : afterFields? flags bytes = some rest) : rest.length ≤ bytes.length := by
  rw [afterFields?_eq] at found
  rcases Option.bind_eq_some_iff.mp found with ⟨second, extra, last⟩
  have first := length_afterExtraField?_le extra
  have third := length_afterNameField_le flags nameFlag second
  have fourth := length_afterNameField_le flags commentFlag (afterNameField flags nameFlag second)
  have fifth := length_afterChecksumField?_le last
  omega

theorem afterFields?_append {flags : UInt8} {bytes rest : Bytes}
    (found : afterFields? flags bytes = some rest) (followed : rest ≠ []) (more : Bytes) :
    afterFields? flags (bytes ++ more) = some (rest ++ more) := by
  rw [afterFields?_eq] at found ⊢
  rcases Option.bind_eq_some_iff.mp found with ⟨second, extra, last⟩
  have commented : afterNameField flags commentFlag (afterNameField flags nameFlag second) ≠ [] := by
    intro nothing
    rw [nothing] at last
    have := length_afterChecksumField?_le last
    exact followed (List.length_eq_zero_iff.mp (Nat.le_zero.mp this))
  have named : afterNameField flags nameFlag second ≠ [] := by
    intro nothing
    rw [nothing, afterNameField_nil] at commented
    exact commented rfl
  rw [afterExtraField?_append extra more, Option.bind_some, afterNameField_append named more,
    afterNameField_append commented more]
  exact afterChecksumField?_append last more

/-! ## Headers and trailers -/

theorem afterHeader?_eq_some_iff {bytes rest : Bytes} :
    afterHeader? bytes = some rest ↔ exists flags fixed others, fixed.length = 6 ∧
      bytes = magic ++ [deflateMethod, flags] ++ fixed ++ others ∧
      afterFields? flags others = some rest := by
  constructor
  · intro found
    unfold afterHeader? at found
    split at found
    · rename_i first second method flags a b c d e f others
      split at found
      · rename_i known
        rcases known with ⟨begins, deflated⟩
        rcases by simpa [magic] using begins with
          ⟨sameFirst, sameSecond⟩ : first = 0x1f ∧ second = 0x8b
        subst sameFirst sameSecond deflated
        exact ⟨flags, [a, b, c, d, e, f], others, rfl, rfl, found⟩
      · cases found
    · cases found
  · rintro ⟨flags, fixed, others, size, rfl, found⟩
    match fixed, size with
    | [a, b, c, d, e, f], _ =>
        show (if [0x1f, 0x8b] = magic ∧ deflateMethod = deflateMethod then afterFields? flags others
          else none) = some rest
        rw [if_pos ⟨rfl, rfl⟩, found]

theorem length_afterHeader?_lt {bytes rest : Bytes} (found : afterHeader? bytes = some rest) :
    rest.length + 10 ≤ bytes.length := by
  rcases afterHeader?_eq_some_iff.mp found with ⟨flags, fixed, others, size, same, found⟩
  have shorter := length_afterFields?_le found
  rw [same]
  simp only [List.length_append, magic, List.length_cons, List.length_nil, size]
  omega

theorem afterHeader?_append {bytes rest : Bytes} (found : afterHeader? bytes = some rest)
    (followed : rest ≠ []) (more : Bytes) : afterHeader? (bytes ++ more) = some (rest ++ more) := by
  rcases afterHeader?_eq_some_iff.mp found with ⟨flags, fixed, others, size, same, found⟩
  refine afterHeader?_eq_some_iff.mpr
    ⟨flags, fixed, others ++ more, size, ?_, afterFields?_append found followed more⟩
  rw [same, List.append_assoc]

/-- What follows a member with the given content, if the trailer is there. -/
def afterTrailer? (content bytes : Bytes) : Option Bytes :=
  if isTrailer content (bytes.take 8) then some (bytes.drop 8) else none

theorem length_of_isTrailer {content bytes : Bytes} (fits : isTrailer content (bytes.take 8) = true) :
    8 ≤ bytes.length := by
  have size : (bytes.take 8).length = 8 := by
    simp only [isTrailer, Bool.and_eq_true, beq_iff_eq] at fits
    exact fits.1.1
  rw [List.length_take] at size
  omega

theorem afterTrailer?_append {content bytes rest : Bytes}
    (found : afterTrailer? content bytes = some rest) (more : Bytes) :
    afterTrailer? content (bytes ++ more) = some (rest ++ more) := by
  unfold afterTrailer? at found ⊢
  split at found
  · rename_i fits
    have long := length_of_isTrailer fits
    cases found
    rw [List.take_append_of_le_length long, if_pos fits, List.drop_append_of_le_length long]
  · cases found

/-! ## Members -/

theorem member?_eq_some_iff {bytes content rest : Bytes} :
    member? bytes = some (content, rest) ↔ exists compressed after,
      afterHeader? bytes = some compressed ∧ Deflate.decode? compressed = some (content, after) ∧
      afterTrailer? content after = some rest := by
  have unfolded : member? bytes = (afterHeader? bytes).bind fun compressed =>
      (Deflate.decode? compressed).bind fun decoded =>
        (afterTrailer? decoded.1 decoded.2).bind fun rest => some (decoded.1, rest) := by
    unfold member? afterTrailer?
    refine congrArg _ (funext fun compressed => congrArg _ (funext fun decoded => ?_))
    rcases decoded with ⟨content, after⟩
    dsimp only
    split <;> rfl
  rw [unfolded]
  simp only [Option.bind_eq_some_iff, Prod.exists, Option.some.injEq, Prod.mk.injEq]
  constructor
  · rintro ⟨compressed, header, first, after, decoded, left, trailer, rfl, rfl⟩
    exact ⟨compressed, after, header, decoded, trailer⟩
  · rintro ⟨compressed, after, header, decoded, trailer⟩
    exact ⟨compressed, header, content, after, decoded, rest, trailer, rfl, rfl⟩

theorem length_member?_lt {bytes content rest : Bytes} (found : member? bytes = some (content, rest)) :
    rest.length < bytes.length := by
  rcases member?_eq_some_iff.mp found with ⟨compressed, after, header, decoded, trailer⟩
  have first := length_afterHeader?_lt header
  have second := Deflate.length_decode?_le decoded
  have third : rest.length ≤ after.length := by
    unfold afterTrailer? at trailer
    split at trailer
    · cases trailer
      rw [List.length_drop]
      omega
    · cases trailer
  omega

/-- A complete member is the same member whatever follows it. -/
theorem member?_append {bytes content rest : Bytes} (found : member? bytes = some (content, rest))
    (more : Bytes) : member? (bytes ++ more) = some (content, rest ++ more) := by
  rcases member?_eq_some_iff.mp found with ⟨compressed, after, header, decoded, trailer⟩
  have followed : compressed ≠ [] := by
    intro nothing
    rw [nothing, Deflate.decode?_nil] at decoded
    cases decoded
  exact member?_eq_some_iff.mpr ⟨compressed ++ more, after ++ more,
    afterHeader?_append header followed more, Deflate.decode?_append decoded more,
    afterTrailer?_append trailer more⟩

/-! ## Files -/

theorem contents?_succ (rounds : Nat) {bytes : Bytes} (nonempty : bytes ≠ []) :
    contents? (rounds + 1) bytes = (member? bytes).bind fun found =>
      (contents? rounds (found.2.dropWhile (· == 0))).bind fun others =>
        some (found.1 ++ others) := by
  cases bytes with
  | nil => exact absurd rfl nonempty
  | cons byte bytes => rfl

/-- The rounds that the bytes allow are enough, and more make no difference. -/
theorem contents?_eq_decode? (rounds : Nat) (bytes : Bytes) (enough : bytes.length ≤ rounds) :
    contents? rounds bytes = decode? bytes := by
  unfold decode?
  generalize most : bytes.length = few at enough
  have fewEnough : bytes.length ≤ few := Nat.le_of_eq most
  clear most
  induction few generalizing rounds bytes with
  | zero =>
      have empty : bytes = [] := List.length_eq_zero_iff.mp (Nat.le_zero.mp fewEnough)
      subst empty
      cases rounds <;> rfl
  | succ few inductionHypothesis =>
      by_cases empty : bytes = []
      · subst empty
        cases rounds <;> rfl
      · rcases Nat.exists_eq_add_of_le' (Nat.le_trans (Nat.succ_pos few) enough) with ⟨others, rfl⟩
        rw [contents?_succ others empty, contents?_succ few empty]
        refine Option.bind_congr fun found present => ?_
        have shorter := length_member?_lt (show member? bytes = some (found.1, found.2) from present)
        have dropped := (@List.dropWhile_suffix _ found.2 (· == 0)).length_le
        rw [inductionHypothesis others (found.2.dropWhile (· == 0)) (by omega) (by omega)]

/-- A file is its first member and the file after the padding. -/
theorem decode?_eq_some_iff {bytes content : Bytes} (nonempty : bytes ≠ []) :
    decode? bytes = some content ↔ exists first rest others, member? bytes = some (first, rest) ∧
      decode? (rest.dropWhile (· == 0)) = some others ∧ content = first ++ others := by
  have more := contents?_eq_decode? (bytes.length + 1) bytes (Nat.le_succ _)
  rw [← more, contents?_succ _ nonempty]
  simp only [Option.bind_eq_some_iff, Prod.exists, Option.some.injEq]
  constructor
  · rintro ⟨first, rest, found, others, decoded, rfl⟩
    have shorter := length_member?_lt found
    have dropped := (@List.dropWhile_suffix _ rest (· == 0)).length_le
    rw [contents?_eq_decode? _ _ (by omega)] at decoded
    exact ⟨first, rest, others, found, decoded, rfl⟩
  · rintro ⟨first, rest, others, found, decoded, rfl⟩
    have shorter := length_member?_lt found
    have dropped := (@List.dropWhile_suffix _ rest (· == 0)).length_le
    rw [← contents?_eq_decode? bytes.length _ (by omega)] at decoded
    exact ⟨first, rest, found, others, decoded, rfl⟩

/-- Padding ends with the first byte that is not zero. -/
theorem dropWhile_append_of_unpadded (bytes : Bytes) {more : Bytes} (unpadded : more.head? ≠ some 0) :
    (bytes ++ more).dropWhile (· == 0) = bytes.dropWhile (· == 0) ++ more := by
  have stays : more.dropWhile (· == 0) = more := by
    cases more with
    | nil => rfl
    | cons byte more =>
        refine List.dropWhile_cons_of_neg fun zero => unpadded ?_
        rw [List.head?_cons, eq_of_beq zero]
  rw [List.dropWhile_append]
  split
  · rename_i nothing
    rw [stays, List.isEmpty_iff.mp nothing, List.nil_append]
  · rfl

/-- Two files one after the other are a file.  The second must not begin with what pads the first. -/
theorem decode?_append {bytes content others : Bytes} (decoded : decode? bytes = some content)
    {more : Bytes} (unpadded : more.head? ≠ some 0) (decodedMore : decode? more = some others) :
    decode? (bytes ++ more) = some (content ++ others) := by
  generalize few : bytes.length = size
  induction size using Nat.strongRecOn generalizing bytes content with
  | ind size inductionHypothesis =>
      by_cases empty : bytes = []
      · subst empty
        cases decoded
        exact decodedMore
      · rcases (decode?_eq_some_iff empty).mp decoded with ⟨first, rest, last, found, later, rfl⟩
        have shorter := length_member?_lt found
        have dropped := (@List.dropWhile_suffix _ rest (· == 0)).length_le
        refine (decode?_eq_some_iff (List.append_ne_nil_of_left_ne_nil empty more)).mpr
          ⟨first, rest ++ more, last ++ others, member?_append found more, ?_, List.append_assoc _ _ _⟩
        rw [dropWhile_append_of_unpadded rest unpadded]
        exact inductionHypothesis _ (by omega) later rfl

/-- No proper part of a single member is a gzip file, unless it is empty. -/
theorem decode?_take_eq_none {bytes content : Bytes} (single : member? bytes = some (content, []))
    {cut : Nat} (positive : 0 < cut) (proper : cut < bytes.length) :
    decode? (bytes.take cut) = none := by
  have nonempty : bytes.take cut ≠ [] := by
    intro empty
    have size := congrArg List.length empty
    rw [List.length_take, List.length_nil] at size
    omega
  refine Option.eq_none_iff_forall_ne_some.mpr fun decoded found => ?_
  rcases (decode?_eq_some_iff nonempty).mp found with ⟨first, rest, _, part, _, _⟩
  have whole := member?_append part (bytes.drop cut)
  rw [List.take_append_drop, single] at whole
  -- the member at the front would leave what was cut off, and a single member leaves nothing
  have nothing : rest ++ bytes.drop cut = [] := (Prod.mk.inj (Option.some.inj whole)).2.symm
  have size := congrArg List.length (List.append_eq_nil_iff.mp nothing).2
  rw [List.length_drop, List.length_nil] at size
  omega

end Gzip
end ObjectWatch
