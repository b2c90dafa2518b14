import ObjectWatch.Delivery.FileTree
import ObjectWatch.Watcher.Content

/-!
# Where new versions go

A sink takes the content of a new version, copies it piece by piece, and closes it.  Standard output
receives every piece as soon as it was read, and what it received is passed on after the content was
closed.  A file receives all pieces at once, after the content was read to its end, so nobody ever sees a
part of a version.

Content is closed however the copying ends, and when closing fails as well, that is what is told.
The folder of a file and the draft are made before the content is touched: when that fails, the
content is left open.  That the system may refuse to take what is written to a draft, as a full disk
does, is left out.
-/

namespace ObjectWatch

/-- Standard output. -/
structure Output where
  /-- The pieces that were written, the last one first. -/
  pieces : List Bytes := []
  /-- The number of bytes that are still taken before nobody listens any more. -/
  room : Option Nat := none
  /-- Why what was written cannot be passed on, if it cannot. -/
  flushError : Option (SystemKind × String) := none

namespace Output

/-- What was written. -/
def written (output : Output) : Bytes := output.pieces.reverse.flatten

/-- Add a piece, whatever room there is. -/
def push (piece : Bytes) (output : Output) : Output :=
  { output with pieces := piece :: output.pieces, room := output.room.map (· - piece.length) }

/-- Whether a piece is taken. -/
def takes (output : Output) (piece : Bytes) : Bool :=
  match output.room with
  | none => true
  | some room => piece.length ≤ room

/-- Write a piece whole or not at all. -/
def write (output : Output) (piece : Bytes) : Except Fault Output :=
  if output.takes piece then .ok (output.push piece)
  else .error (.system .brokenPipe "output closed")

/-- Pass on what was written. -/
def flush (output : Output) : Except Fault (Unit × Output) :=
  match output.flushError with
  | none => .ok ((), output)
  | some (kind, message) => .error (.system kind message)

theorem written_push (piece : Bytes) (output : Output) :
    (output.push piece).written = output.written ++ piece := by
  simp [written, push]

end Output

/-- The places that sinks write to. -/
structure Storage where
  files : FileTree := {}
  output : Output := {}

/-- Where new versions go. -/
inductive Sink where
  | output
  | file (path : Path)
deriving DecidableEq, Repr

/-- Content on its way to a place. -/
structure Transfer (α : Type) where
  content : Content
  place : α

namespace Transfer

/-- The most bytes that are read at once. -/
def pieceSize : Nat := 65536

/-- Run a computation on the content. -/
def onContent {α β : Type} (act : Attempt Content β) : Attempt (Transfer α) β := fun transfer =>
  match act transfer.content with
  | .ok value content => .ok value { transfer with content }
  | .error fault content => .error fault { transfer with content }

/-- Run a computation on the place. -/
def onPlace {α β : Type} (act : α -> Except Fault (β × α)) : Attempt (Transfer α) β := fun transfer =>
  match act transfer.place with
  | .ok (value, place) => .ok value { transfer with place }
  | .error fault => .error fault transfer

/-- Read pieces until there are none left and hand each of them to the place.  The answer is the
number of bytes. -/
def copyPieces {α : Type} (accept : Bytes -> α -> Except Fault α) :
    (rounds : Nat) -> (size : Nat) -> Attempt (Transfer α) Nat
  | 0, size => return size
  | rounds + 1, size => do
      let piece <- onContent (Content.read pieceSize)
      if piece.isEmpty then return size
      onPlace fun place => (accept piece place).map ((), ·)
      copyPieces accept rounds (size + piece.length)

/-- Copy the content to its end.  Every piece holds at least one byte, so the bound on the bytes
bounds the pieces. -/
def copy {α : Type} (accept : Bytes -> α -> Except Fault α) : Attempt (Transfer α) Nat := do
  copyPieces accept ((<- get).content.bound + 1) 0

/-- Close the content after a computation, however that ended. -/
def closing {α β : Type} (act : Attempt (Transfer α) β) : Attempt (Transfer α) β := fun transfer =>
  match act transfer with
  | .ok value transfer => (onContent Content.close *> pure value) transfer
  | .error fault transfer => (onContent Content.close *> throw fault) transfer

end Transfer

namespace Sink

/-- The name of a kind of sink. -/
def kindName : Sink -> String
  | output => "StdoutSink"
  | file _ => "FileSink"

/-- Copy content to standard output and close it. -/
def copyToOutput : Attempt (Transfer Output) Nat :=
  Transfer.closing (Transfer.copy fun piece output => output.write piece)

/-- Copy content to standard output, close it, and pass on what was written.  When that fails the content
is closed already. -/
def deliverToOutput : Attempt (Transfer Output) Nat := do
  let size <- copyToOutput
  Transfer.onPlace Output.flush
  return size

/-- Make the folder of a file and begin a draft in it.  The folders that were made stay, also when
the draft cannot be begun. -/
def openDraft (path : Path) (files : FileTree) : EStateM.Result Fault FileTree Draft :=
  if '\x00' ∈ path.parent.text.toList then .error embeddedZero files
  else
    match files.ensureFolders path.parent with
    | .error (error, folder) files => .error (error.fault (Text.quoted folder.text)) files
    | .ok () files =>
        match files.beginDraft path with
        | .error fault => .error fault files
        | .ok (draft, files) => .ok draft files

/-- Read content to its end.  The answer is all of it. -/
def collect (content : Content) : EStateM.Result Fault Content Bytes :=
  let gather := fun (piece : Bytes) (pieces : List Bytes) => Except.ok (piece :: pieces)
  match Transfer.copy gather { content, place := [] } with
  | .ok _ transfer => .ok transfer.place.reverse.flatten transfer.content
  | .error fault transfer => .error fault transfer.content

/-- Fill a draft with content and publish it.  A draft that is not published is discarded. -/
def fillDraft (path : Path) (draft : Draft) : Attempt (Transfer FileTree) Nat := fun transfer =>
  match collect transfer.content with
  | .error fault content => .error fault { content, place := transfer.place.discardDraft }
  | .ok bytes content =>
      let draft := { draft with content := bytes }
      match transfer.place.publish draft path with
      | .error error =>
          .error (error.fault (Text.quoted draft.text ++ " -> " ++ Text.quoted path.text))
            { content, place := transfer.place.discardDraft }
      | .ok files => .ok bytes.length { content, place := files }

/-- Replace a file by content and close the content. -/
def deliverToFile (path : Path) : Attempt (Transfer FileTree) Nat := fun transfer =>
  match openDraft path transfer.place with
  | .error fault files => .error fault { transfer with place := files }
  | .ok draft files =>
      Transfer.closing (fillDraft path draft) { transfer with place := files }

/-- Deliver content and close it.  The answer is the number of bytes. -/
def deliver (sink : Sink) : Attempt (Transfer Storage) Nat := fun transfer =>
  match sink with
  | output =>
      match deliverToOutput { transfer with place := transfer.place.output } with
      | .ok size done =>
          .ok size ⟨done.content, { transfer.place with output := done.place }⟩
      | .error fault done =>
          .error fault ⟨done.content, { transfer.place with output := done.place }⟩
  | file path =>
      match deliverToFile path { transfer with place := transfer.place.files } with
      | .ok size done =>
          .ok size ⟨done.content, { transfer.place with files := done.place }⟩
      | .error fault done =>
          .error fault ⟨done.content, { transfer.place with files := done.place }⟩

end Sink
end ObjectWatch
