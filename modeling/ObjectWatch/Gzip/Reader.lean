import ObjectWatch.Gzip.Header
import ObjectWatch.Deflate.Inflater

/-!
# The decompressing reader

A reader walks over the members of a gzip file.  Each request returns the next decompressed bytes,
at most as many as were asked for and at least one, or nothing at the end of the data.

When the compressed data of a member has ended, the checksum and the length that follow it are
compared with what was decoded before anything else is read.  The comparison is part of the next
request, so the last bytes of a member are handed out before they were verified, but never the end
of the data.

The reader keeps its place when a request fails: a member that has ended but was not verified is
verified again from the place that was reached, and a flaw in the compressed data is reported again.
-/

namespace ObjectWatch
namespace Gzip

open Deflate (Inflater)

/-- The place of a reader: in front of a member, or inside one. -/
inductive Place where
  | betweenMembers
  | inMember (inflater : Inflater)

/-- A decompressing reader. -/
structure Reader where
  source : Source
  place : Place := .betweenMembers

/-- How many compressed bytes are asked for at once. -/
def chunkSize : Nat := 8192

/-- The largest number of bytes that a request can name. -/
def unlimited : Nat := 0x7fffffffffffffff

/-- The fault of a flaw in compressed data. -/
def corrupt (flaw : Deflate.Flaw) : Fault :=
  .corrupt ("Error -3 while decompressing data: " ++ flaw.message)

namespace Reader

/-- Run a computation on the source of the reader. -/
def onSource {α : Type} (act : Attempt Source α) : Attempt Reader α := fun reader =>
  match act reader.source with
  | .ok value source => .ok value { reader with source }
  | .error fault source => .error fault { reader with source }

/-- Compare what was decoded with the checksum and the length that follow it, and skip the zero bytes
that may pad a file. -/
def verify (bound : Nat) (payload : Bytes) : Attempt Source Unit := do
  let trailer <- Source.readExactly 8
  let stored := Source.littleEndian (trailer.take 4)
  let computed := (Checksum.crc32 payload).toNat
  if stored ≠ computed then
    throw (notGzip
      ("CRC check failed " ++ Text.hexMarked stored ++ " != " ++ Text.hexMarked computed))
  if Source.littleEndian (trailer.drop 4) ≠ payload.length % lengthModulus then
    throw (notGzip "Incorrect length of data produced")
  Source.skipPadding bound

/-- Leave a member that has ended, once it is verified. -/
def finishMember (bound : Nat) : Attempt Reader Unit := do
  match (<- get).place with
  | .betweenMembers => pure ()
  | .inMember inflater =>
      if inflater.isDone then
        onSource (verify bound inflater.output.toList)
        modify fun reader => { reader with place := .betweenMembers }

/-- Enter the next member if the reader stands in front of one.  The answer is false at the end of
the data. -/
def enterMember (bound : Nat) : Attempt Reader Bool := do
  match (<- get).place with
  | .inMember _ => return true
  | .betweenMembers =>
      let found <- onSource (readHeader bound)
      if found then modify fun reader => { reader with place := .inMember {} }
      return found

/-- Decompress the next piece, at most `limit` bytes of output.  The answer is the output and whether
there was any input.  After a flaw the input of this piece is lost. -/
def decompress (limit : Nat) : Attempt Reader (Bytes × Bool) := do
  let input <- onSource (Source.read chunkSize)
  fun reader =>
    match reader.place with
    | .betweenMembers => .ok ([], !input.isEmpty) reader
    | .inMember inflater =>
        let reader := { reader with place := .betweenMembers }
        let (result, inflater, rest) := inflater.inflate limit input
        let reader := { reader with place := .inMember inflater }
        match result with
        | .error flaw => .error (corrupt flaw) reader
        | .ok output =>
            .ok (output, !input.isEmpty)
              { reader with source.pending := rest ++ reader.source.pending }

/-- Go on until there is output.  A round without output has read at least one byte, so the number of
bytes left bounds the number of rounds. -/
def readRounds (bound limit : Nat) : (rounds : Nat) -> Attempt Reader Bytes
  | 0 => throw Source.truncated
  | rounds + 1 => do
      finishMember bound
      let found <- enterMember bound
      if !found then return []
      let (output, hadInput) <- decompress limit
      if !output.isEmpty then return output
      if !hadInput then throw Source.truncated
      readRounds bound limit rounds

/-- The next decompressed bytes, at most `limit` of them.  The bound has to exceed the number of bytes
that are left by two; what it is beyond that makes no difference. -/
def read (bound limit : Nat) : Attempt Reader Bytes := do
  if limit = 0 then return []
  readRounds bound limit bound

/-- A bound that is large enough for a reader now and later, as the bytes that are left only get
fewer. -/
def bound (reader : Reader) : Nat := reader.source.remaining + 2

end Reader
end Gzip
end ObjectWatch
