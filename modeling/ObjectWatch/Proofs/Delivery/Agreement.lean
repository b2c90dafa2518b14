import ObjectWatch.Proofs.Delivery.Replacement

/-!
# The two sinks agree

Standard output and a file take content in different ways: the one writes every piece as soon as it was
read, the other gathers the pieces in a draft and publishes it in the end.  What they do with the content
is the same.  They read it by the same reads up to the first one that brings nothing or fails, then they
close it, and they tell the same: the refusal of the content to be closed, if there is one, else the fault
of the reads, else the number of bytes.

`ReadsPieces` is the account of the reads, piece by piece, and `ending` is the end of a delivery that made
them.  Both deliveries are equal to it, for the place that each of them leaves: standard output has every
piece that was read, and the file is new exactly if the content was read to its end.  Whether it could be
closed has no part in that.
-/

namespace ObjectWatch

namespace Content

open Transfer (pieceSize)

/-- The reads by which content is taken: the pieces that they bring, the fault of the last one, if it has
one, and the content that they leave behind.  A read that brings nothing is the last. -/
inductive ReadsPieces : Content -> List Bytes -> Option Fault -> Content -> Prop where
  | ended {content left : Content} (read : Content.read pieceSize content = .ok [] left) :
      ReadsPieces content [] none left
  | failed {content left : Content} {fault : Fault}
      (read : Content.read pieceSize content = .error fault left) :
      ReadsPieces content [] (some fault) left
  | piece {content next left : Content} {piece : Bytes} {pieces : List Bytes} {stop : Option Fault}
      (read : Content.read pieceSize content = .ok piece next) (nonempty : piece ≠ [])
      (later : ReadsPieces next pieces stop left) :
      ReadsPieces content (piece :: pieces) stop left

variable {content left : Content} {bytes : Bytes} {pieces : List Bytes} {stop : Option Fault}

/-- Bytes that are read are read in pieces. -/
theorem Reads.inPieces (reads : content.Reads bytes stop left) :
    exists pieces, content.ReadsPieces pieces stop left ∧ pieces.flatten = bytes := by
  induction reads with
  | ended read => exact ⟨[], .ended read, rfl⟩
  | failed read => exact ⟨[], .failed read, rfl⟩
  | @piece content next left piece rest stop read nonempty later inductionHypothesis =>
      rcases inductionHypothesis with ⟨pieces, reads, same⟩
      refine ⟨piece :: pieces, .piece read nonempty reads, ?_⟩
      rw [List.flatten_cons, same]

/-- Pieces that are read make up the bytes. -/
theorem ReadsPieces.reads (reads : content.ReadsPieces pieces stop left) :
    content.Reads pieces.flatten stop left := by
  induction reads with
  | ended read => exact .ended read
  | failed read => exact .failed read
  | piece read nonempty later inductionHypothesis => exact .piece read nonempty inductionHypothesis

/-- Content that is read in pieces is read to its end exactly if no read fails. -/
theorem ReadsPieces.wholly_iff (reads : content.ReadsPieces pieces stop left) (bytes : Bytes) :
    (exists other, content.Reads bytes none other) ↔ stop = none ∧ bytes = pieces.flatten := by
  constructor
  · rintro ⟨other, toItsEnd⟩
    rcases reads.reads.unique toItsEnd with ⟨same, ended, _⟩
    exact ⟨ended, same.symm⟩
  · rintro ⟨rfl, rfl⟩
    exact ⟨left, reads.reads⟩

/-! ## Any pieces -/

/-- The limits with which a body serves its bytes in the given pieces. -/
def limitsOf : List Bytes -> Nat -> Option { limit : Nat // 0 < limit }
  | [], _ => none
  | piece :: pieces, left =>
      if pieces.flatten.length < left then
        if positive : 0 < piece.length then some ⟨piece.length, positive⟩ else none
      else limitsOf pieces left

/-- A body with the limits of pieces, at least for the bytes that it has, serves them piece by piece. -/
theorem readsPieces_of_limits {failure : Option Fault} {limits : Nat -> Option { limit : Nat // 0 < limit }}
    (fit : forall piece, piece ∈ pieces -> piece ≠ [] ∧ piece.length ≤ pieceSize)
    (agree : forall few, few ≤ pieces.flatten.length -> limits few = limitsOf pieces few) :
    (raw { rest := pieces.flatten, failure, limits }).ReadsPieces pieces failure
      (raw { rest := [], failure, limits }) := by
  induction pieces with
  | nil =>
      have read := read_raw { rest := [], failure, limits }
      rw [Body.read_of_open rfl (by decide), if_pos rfl] at read
      cases failure with
      | none => exact .ended read
      | some fault => exact .failed read
  | cons piece pieces inductionHypothesis =>
      rcases fit piece List.mem_cons_self with ⟨nonempty, small⟩
      have positive := List.length_pos_iff.mpr nonempty
      have longer : pieces.flatten.length < (piece :: pieces).flatten.length := by
        rw [List.flatten_cons, List.length_append]
        omega
      have limited : limits (piece :: pieces).flatten.length = some ⟨piece.length, positive⟩ := by
        rw [agree _ (Nat.le_refl _), limitsOf, if_pos longer, dif_pos positive]
      have capped : Body.capped { rest := (piece :: pieces).flatten, failure, limits } pieceSize =
          piece.length := Body.capped_of_limit rfl limited small
      have read := read_raw { rest := (piece :: pieces).flatten, failure, limits }
      rw [Body.read_of_open rfl (by decide), if_neg, capped, Body.serve] at read
      · dsimp only at read
        rw [List.flatten_cons, List.take_left, List.drop_left] at read
        refine .piece read nonempty (inductionHypothesis ?_ fun few atMost => ?_)
        · exact fun other member => fit other (List.mem_cons_of_mem _ member)
        · rw [agree few (by omega), limitsOf, if_neg (Nat.not_lt_of_le atMost)]
      · rw [List.flatten_cons]
        exact List.append_ne_nil_of_left_ne_nil nonempty _

/-- However bytes are cut into pieces that a read can bring, there is a live body that serves them in these
pieces and then ends or fails. -/
theorem exists_readsPieces (fit : forall piece, piece ∈ pieces -> piece ≠ [] ∧ piece.length ≤ pieceSize)
    (failure : Option Fault) :
    exists body : Body, body.IsLive ∧ body.rest = pieces.flatten ∧
      exists left, (raw body).ReadsPieces pieces failure left := by
  refine ⟨{ rest := pieces.flatten, failure, limits := limitsOf pieces }, ⟨rfl, nofun⟩, rfl, ?_⟩
  exact ⟨_, readsPieces_of_limits fit fun _ _ => rfl⟩

end Content

namespace Transfer

variable {α : Type} {content left : Content} {pieces : List Bytes} {stop : Option Fault}

/-- The end of a computation that stops with a fault, or else gives a value. -/
def stopped {σ β : Type} (stop : Option Fault) (value : β) (after : σ) : EStateM.Result Fault σ β :=
  match stop with
  | none => .ok value after
  | some fault => .error fault after

/-- What a delivery tells: the refusal of the content to be closed, if there is one, else the fault of the
reads, else the size. -/
def told (stop : Option Fault) (size : Nat) (left : Content) : Except Fault Nat :=
  match left.close, stop with
  | .error refusal _, _ => .error refusal
  | .ok _ _, some fault => .error fault
  | .ok _ _, none => .ok size

/-- The end of a delivery that closes what is left of the content. -/
def ending (stop : Option Fault) (size : Nat) (left : Content) (place : α) :
    EStateM.Result Fault (Transfer α) Nat :=
  match told stop size left with
  | .ok size => .ok size ⟨stateOf left.close, place⟩
  | .error fault => .error fault ⟨stateOf left.close, place⟩

/-- Copying makes the reads of the account, for any place that takes the pieces one after another. -/
theorem copyPieces_of_handed {accept : Bytes -> α -> Except Fault α}
    (reads : content.ReadsPieces pieces stop left) {place after : α}
    (handed : pieces.foldlM (fun place piece => accept piece place) place = .ok after) {rounds : Nat}
    (enough : pieces.flatten.length < rounds) (size : Nat) :
    copyPieces accept rounds size ⟨content, place⟩ =
      stopped stop (size + pieces.flatten.length) ⟨left, after⟩ := by
  induction reads generalizing rounds size place with
  | ended read =>
      rcases Nat.exists_eq_add_of_lt enough with ⟨fewer, rfl⟩
      have same : place = after := Except.ok.inj handed
      rw [copyPieces_of_end _ _ read, same]
      rfl
  | failed read =>
      rcases Nat.exists_eq_add_of_lt enough with ⟨fewer, rfl⟩
      have same : place = after := Except.ok.inj handed
      rw [copyPieces_of_failure _ _ read, same]
      rfl
  | @piece content next left piece pieces stop read nonempty later inductionHypothesis =>
      rcases Nat.exists_eq_add_of_lt enough with ⟨fewer, rfl⟩
      have positive := List.length_pos_iff.mpr nonempty
      rw [List.foldlM_cons] at handed
      rw [copyPieces_of_piece _ _ read nonempty]
      cases taken : accept piece place with
      | error fault =>
          rw [taken] at handed
          cases handed
      | ok further =>
          rw [taken] at handed
          have enoughLater : pieces.flatten.length < (piece :: pieces).flatten.length + fewer := by
            rw [List.flatten_cons, List.length_append]
            omega
          dsimp only
          rw [inductionHypothesis handed enoughLater (size + piece.length), List.flatten_cons,
            List.length_append, Nat.add_assoc]

/-- Copying to the end needs no more rounds than there are bytes. -/
theorem copy_of_handed {accept : Bytes -> α -> Except Fault α}
    (reads : content.ReadsPieces pieces stop left) (bounded : pieces.flatten.length ≤ content.bound)
    {place after : α}
    (handed : pieces.foldlM (fun place piece => accept piece place) place = .ok after) :
    copy accept ⟨content, place⟩ = stopped stop pieces.flatten.length ⟨left, after⟩ := by
  have copied := copyPieces_of_handed reads handed (Nat.lt_succ_of_le bounded) 0
  rw [Nat.zero_add] at copied
  exact copied

/-- Closing comes last, and a refusal is told before anything else. -/
theorem closing_of_stopped {act : Attempt (Transfer α) Nat} {transfer : Transfer α} {size : Nat}
    {place : α} (ended : act transfer = stopped stop size ⟨left, place⟩) :
    closing act transfer = ending stop size left place := by
  unfold closing ending told
  rw [ended]
  cases stop with
  | none =>
      rw [stopped]
      dsimp only
      rw [seqRight_apply, onContent]
      dsimp only
      cases left.close <;> rfl
  | some fault =>
      rw [stopped]
      dsimp only
      rw [seqRight_apply, onContent]
      dsimp only
      cases left.close <;> rfl

/-- The content is closed in the end, and the place is as it was left. -/
theorem stateOf_ending (stop : Option Fault) (size : Nat) (left : Content) (place : α) :
    stateOf (ending stop size left place) = ⟨stateOf left.close, place⟩ := by
  unfold ending
  cases told stop size left <;> rfl

/-- What is told does not depend on the place. -/
theorem valueOf_ending (stop : Option Fault) (size : Nat) (left : Content) (place : α) :
    valueOf (ending stop size left place) = told stop size left := by
  unfold ending
  cases told stop size left <;> rfl

end Transfer

/-! ## Where the pieces go -/

/-- Standard output after pieces were written. -/
def Output.pushed (pieces : List Bytes) (output : Output) : Output :=
  { output with
    pieces := pieces.reverse ++ output.pieces
    room := output.room.map (· - pieces.flatten.length) }

theorem Output.pushed_push (piece : Bytes) (pieces : List Bytes) (output : Output) :
    (output.push piece).pushed pieces = output.pushed (piece :: pieces) := by
  unfold push pushed
  simp only [Option.map_map, List.reverse_cons, List.append_assoc, List.singleton_append,
    List.flatten_cons, List.length_append]
  congr 2
  funext room
  exact Nat.sub_sub room piece.length pieces.flatten.length

theorem Output.written_pushed (pieces : List Bytes) (output : Output) :
    (output.pushed pieces).written = output.written ++ pieces.flatten := by
  simp [written, pushed]

/-- Standard output takes pieces one after another if it has room for them together. -/
theorem Output.handed {pieces : List Bytes} {output : Output} (fits : output.HasRoom pieces.flatten) :
    pieces.foldlM (fun (output : Output) piece => output.write piece) output =
      .ok (output.pushed pieces) := by
  induction pieces generalizing output with
  | nil =>
      have same : output.pushed [] = output := by
        unfold pushed
        simp
      rw [same]
      rfl
  | cons piece pieces inductionHypothesis =>
      have first : output.HasRoom piece := by
        intro room most
        have whole := fits room most
        rw [List.flatten_cons, List.length_append] at whole
        omega
      have written : output.write piece = .ok (output.push piece) :=
        if_pos ((output.takes_iff piece).mpr first)
      rw [List.flatten_cons, Output.push_hasRoom_iff first] at fits
      rw [List.foldlM_cons, written, ← output.pushed_push]
      exact inductionHypothesis fits

/-- Gathering takes every piece. -/
theorem Sink.gather_handed (pieces gathered : List Bytes) :
    pieces.foldlM (fun gathered piece => Sink.gather piece gathered) gathered =
      .ok (pieces.reverse ++ gathered) := by
  induction pieces generalizing gathered with
  | nil => rfl
  | cons piece pieces inductionHypothesis =>
      rw [List.foldlM_cons, List.reverse_cons, List.append_assoc]
      exact inductionHypothesis (piece :: gathered)

/-- Where a usable path leads once the folder of the file is there.  A draft is begun, and it can be
published there whatever it holds. -/
theorem FileTree.IsUsable.publishes {tree : FileTree} {path : Path} (usable : tree.IsUsable path) :
    exists draft opened made place, Sink.openDraft path tree = .ok draft opened ∧
      tree.ensureFolders path.parent = .ok () made ∧ made.locate path = .ok place ∧
      made.node? place ≠ some .folder ∧ opened.discardDraft = made ∧
      forall content, opened.publish { draft with content } path =
        .ok (made.put place (.file content)) := by
  rcases usable with ⟨draft, opened, published, opens, publishes⟩
  rcases publish_eq_ok_iff.mp publishes with ⟨place, located, named, free, _⟩
  rcases openDraft_eq_ok_iff.mp opens with ⟨_, made, ensured, begun⟩
  rcases beginDraft_eq_ok_iff.mp begun with ⟨_, _, _, _, _, same⟩
  have discarded : opened.discardDraft = made := by
    rw [same]
    rfl
  have keeps : opened.KeepsFolders made := by
    rw [same]
    exact fun _ folder => folder
  have free : made.node? place ≠ some .folder := by
    rw [same] at free
    exact free
  refine ⟨draft, opened, made, place, opens, ensured, locate_of_keeps keeps located, free, discarded,
    fun content => ?_⟩
  rw [← discarded] at free ⊢
  exact publish_eq_ok_iff.mpr ⟨place, located, named, free, rfl⟩

/-! ## The two deliveries -/

namespace Sink

variable {content left : Content} {pieces : List Bytes} {stop : Option Fault} {path : Path}

/-- Gathering makes the same reads, and has every piece. -/
theorem copy_gather_of_pieces (reads : content.ReadsPieces pieces stop left)
    (bounded : pieces.flatten.length ≤ content.bound) :
    Transfer.copy gather ⟨content, []⟩ =
      Transfer.stopped stop pieces.flatten.length ⟨left, pieces.reverse⟩ := by
  rw [Transfer.copy_of_handed reads bounded (gather_handed pieces []), List.append_nil]

/-- The pieces are collected together, or not at all. -/
theorem collect_of_pieces (reads : content.ReadsPieces pieces stop left)
    (bounded : pieces.flatten.length ≤ content.bound) :
    collect content = Transfer.stopped stop pieces.flatten left := by
  have copied : Transfer.copyPieces gather (content.bound + 1) 0 ⟨content, []⟩ = _ :=
    copy_gather_of_pieces reads bounded
  rw [collect_eq, copied]
  cases stop with
  | none =>
      rw [Transfer.stopped]
      dsimp only
      rw [Gzip.Stream.joined, List.reverse_reverse]
      rfl
  | some fault => rfl

/-- Standard output has every piece that was read. -/
theorem deliver_output_eq (reads : content.ReadsPieces pieces stop left)
    (bounded : pieces.flatten.length ≤ content.bound) {storage : Storage}
    (takes : storage.output.Takes pieces.flatten) :
    output.deliver ⟨content, storage⟩ =
      Transfer.ending stop pieces.flatten.length left
        { storage with output := storage.output.pushed pieces } := by
  have copied := Transfer.copy_of_handed reads bounded (Output.handed takes.hasRoom)
  have closed : copyToOutput ⟨content, storage.output⟩ =
      Transfer.ending stop pieces.flatten.length left (storage.output.pushed pieces) :=
    Transfer.closing_of_stopped copied
  have flushes : (storage.output.pushed pieces).flush = .ok ((), storage.output.pushed pieces) :=
    Output.flush_of_sound takes.flushes
  have delivered : deliverToOutput ⟨content, storage.output⟩ =
      Transfer.ending stop pieces.flatten.length left (storage.output.pushed pieces) := by
    rw [deliverToOutput_apply, closed]
    unfold Transfer.ending
    cases Transfer.told stop pieces.flatten.length left with
    | error fault => rfl
    | ok size =>
        dsimp only
        rw [flushes]
  unfold deliver
  dsimp only
  rw [delivered]
  unfold Transfer.ending
  cases Transfer.told stop pieces.flatten.length left <;> rfl

/-- The files after a delivery: if the content was read to its end, the file is all of it. -/
def settled (made : FileTree) (place : Location) (stop : Option Fault) (bytes : Bytes) : FileTree :=
  match stop with
  | none => made.put place (.file bytes)
  | some _ => made

/-- The file is all of the content if that was read to its end, and else it is as it was. -/
theorem deliver_file_eq (reads : content.ReadsPieces pieces stop left)
    (bounded : pieces.flatten.length ≤ content.bound) {storage : Storage}
    (usable : storage.files.IsUsable path) :
    exists made place, storage.files.ensureFolders path.parent = .ok () made ∧
      made.locate path = .ok place ∧ made.node? place ≠ some .folder ∧
      (file path).deliver ⟨content, storage⟩ =
        Transfer.ending stop pieces.flatten.length left
          { storage with files := settled made place stop pieces.flatten } := by
  rcases usable.publishes with
    ⟨draft, opened, made, place, opens, ensured, located, free, discarded, publishes⟩
  have collected := collect_of_pieces reads bounded
  have filled : fillDraft path draft ⟨content, opened⟩ =
      Transfer.stopped stop pieces.flatten.length
        ⟨left, settled made place stop pieces.flatten⟩ := by
    unfold fillDraft
    rw [collected]
    cases stop with
    | none =>
        rw [Transfer.stopped]
        dsimp only
        rw [publishes]
        rfl
    | some fault =>
        rw [Transfer.stopped]
        dsimp only
        rw [discarded]
        rfl
  have delivered : deliverToFile path ⟨content, storage.files⟩ =
      Transfer.ending stop pieces.flatten.length left (settled made place stop pieces.flatten) := by
    unfold deliverToFile
    dsimp only
    rw [opens]
    exact Transfer.closing_of_stopped filled
  refine ⟨made, place, ensured, located, free, ?_⟩
  unfold deliver
  dsimp only
  rw [delivered]
  unfold Transfer.ending
  cases Transfer.told stop pieces.flatten.length left <;> rfl

/-- The files are those that there were, but for the one at the place, which is new if the content was
read to its end. -/
theorem file?_settled {files made : FileTree} {place : Location}
    (ensured : files.ensureFolders path.parent = .ok () made) (free : made.node? place ≠ some .folder)
    (stop : Option Fault) (bytes : Bytes) (location : Location) :
    (settled made place stop bytes).file? location =
      if stop = none ∧ location = place then some bytes else files.file? location := by
  have kept := ((files.ensureFolders_ends path.parent).of_ok ensured).file?_eq location
  cases stop with
  | none =>
      rw [settled, FileTree.file?_put free, kept]
      exact if_congr (and_iff_right rfl).symm rfl rfl
  | some fault =>
      rw [settled, kept, if_neg]
      rintro ⟨impossible, _⟩
      cases impossible

/-! ## Agreement -/

/-- What both sinks do with content: the pieces that are read, the fault of the last read, if it has one,
what the reads leave of the content, and the place that the path of the file leads to. -/
structure Agree (path : Path) (storage : Storage) (content : Content) (pieces : List Bytes)
    (stop : Option Fault) (left : Content) (place : Location) : Prop where
  reads : content.ReadsPieces pieces stop left
  /-- Standard output copies the content by these reads. -/
  toOutput : Transfer.copy (fun piece output => Output.write output piece) ⟨content, storage.output⟩ =
    Transfer.stopped stop pieces.flatten.length ⟨left, storage.output.pushed pieces⟩
  /-- The draft of the file gathers the content by these reads. -/
  toDraft : Transfer.copy gather ⟨content, []⟩ =
    Transfer.stopped stop pieces.flatten.length ⟨left, pieces.reverse⟩
  /-- The content is read to its end exactly if no read fails, and then the pieces are all of it. -/
  wholly : forall bytes, (exists other, content.Reads bytes none other) ↔
    stop = none ∧ bytes = pieces.flatten
  /-- The path leads to the place once the folder of the file is there. -/
  leads : exists made, storage.files.ensureFolders path.parent = .ok () made ∧
    made.locate path = .ok place
  /-- Each sink closes what the reads leave. -/
  closed : forall sink, sink = output ∨ sink = file path ->
    (stateOf (sink.deliver ⟨content, storage⟩)).content = stateOf left.close
  /-- Each sink tells the refusal to be closed, else the fault of the reads, else the size. -/
  tells : forall sink, sink = output ∨ sink = file path ->
    valueOf (sink.deliver ⟨content, storage⟩) = Transfer.told stop pieces.flatten.length left
  /-- Standard output has every piece that was read, whatever came after it. -/
  written : (stateOf (output.deliver ⟨content, storage⟩)).place.output.written =
    storage.output.written ++ pieces.flatten
  /-- The file is all of the pieces if no read failed, and else it is what it was; no other file is
  touched. -/
  replaced : forall location,
    (stateOf ((file path).deliver ⟨content, storage⟩)).place.files.file? location =
      if stop = none ∧ location = place then some pieces.flatten else storage.files.file? location

/-- Given a usable path and an output that takes what is read, both sinks make the same reads, close the
content after them, and tell the same.  Standard output then has every piece that was read, and the file is
new exactly if the content was read to its end, whether or not it could be closed. -/
theorem sinks_agree {content : Content} (isStream : content.IsStream) {storage : Storage}
    {path : Path} (usable : storage.files.IsUsable path)
    (takes : forall bytes stop left, content.Reads bytes stop left -> storage.output.Takes bytes) :
    exists pieces stop left place, Agree path storage content pieces stop left place := by
  rcases isStream with ⟨body, unpacked, presents⟩
  rcases presents.reads with ⟨bytes, stop, left, reads, bounded⟩
  have room := takes bytes stop left reads
  rcases reads.inPieces with ⟨pieces, inPieces, rfl⟩
  have toOutput := deliver_output_eq inPieces bounded room
  rcases deliver_file_eq inPieces bounded usable with ⟨made, place, ensured, located, free, toFile⟩
  refine ⟨pieces, stop, left, place, ?_⟩
  exact {
    reads := inPieces
    toOutput := Transfer.copy_of_handed inPieces bounded (Output.handed room.hasRoom)
    toDraft := copy_gather_of_pieces inPieces bounded
    wholly := inPieces.wholly_iff
    leads := ⟨made, ensured, located⟩
    closed := by
      rintro sink (rfl | rfl)
      · rw [toOutput, Transfer.stateOf_ending]
      · rw [toFile, Transfer.stateOf_ending]
    tells := by
      rintro sink (rfl | rfl)
      · rw [toOutput, Transfer.valueOf_ending]
      · rw [toFile, Transfer.valueOf_ending]
    written := by
      rw [toOutput, Transfer.stateOf_ending]
      exact storage.output.written_pushed pieces
    replaced := by
      intro location
      rw [toFile, Transfer.stateOf_ending]
      exact file?_settled ensured free stop pieces.flatten location }

/-- Content of two bytes is served one byte a time and then refuses to be closed.  Both sinks tell that,
standard output has both bytes, and the file is new. -/
theorem sinks_agree_unclosed :
    let refusal : Fault := .system .general "close failed"
    let content : Content := .raw { rest := [97, 98], readCap := some 1, closeFault := some refusal }
    let storage : Storage := { files := { entries := [(Location.working ++ ["a"], .file [1])] } }
    let path : Path := ⟨"", ["a"]⟩
    valueOf (output.deliver ⟨content, storage⟩) = .error refusal ∧
      valueOf ((file path).deliver ⟨content, storage⟩) = .error refusal ∧
      (stateOf (output.deliver ⟨content, storage⟩)).place.output.written = [97, 98] ∧
      exists place, (stateOf ((file path).deliver ⟨content, storage⟩)).place.files.file? place =
        some [97, 98] := by
  intro refusal content storage path
  have prepared : storage.files.IsPrepared path :=
    { plain := by decide +kernel
      folder := by decide +kernel
      begins := ⟨⟨Location.working, "a", []⟩, _, FileTree.beginDraft_eq_ok_iff.mpr
        ⟨Location.working, rfl, by decide +kernel, by decide +kernel, rfl, rfl⟩⟩
      named := by decide +kernel
      target := ⟨Location.working ++ ["a"], rfl, by decide +kernel⟩ }
  rcases @sinks_agree content ⟨_, false, .asServed⟩ storage path prepared.isUsable
    (fun _ _ _ _ => { hasRoom := nofun, flushes := rfl }) with ⟨pieces, stop, left, place, agree⟩
  have live : Body.IsLive { rest := [97, 98], readCap := some 1, closeFault := some refusal } :=
    ⟨rfl, fun cap capped => by cases capped; decide⟩
  have known := Content.reads_raw live
  rcases agree.reads.reads.unique known with ⟨same, ended, leaves⟩
  have refused : Transfer.told stop pieces.flatten.length left = .error refusal := by
    rw [leaves]
    rfl
  refine ⟨?_, ?_, ?_, place, ?_⟩
  · rw [agree.tells _ (.inl rfl), refused]
  · rw [agree.tells _ (.inr rfl), refused]
  · rw [agree.written, same]
    rfl
  · rw [agree.replaced, if_pos ⟨ended, rfl⟩, same]

end Sink
end ObjectWatch
