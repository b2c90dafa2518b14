import ObjectWatch.Gzip.Reader

/-!
# The decompressed stream

A stream puts a block of decompressed bytes in front of a reader.  Opening it fills the block at
once, so content that is not gzip fails while it is opened and not when it is first read.

A read is served from the block when the block holds enough.  Otherwise the block is taken, then as
many whole blocks as fit are read past it, and the remainder is taken from a newly filled block.  A
request may bring fewer bytes than were asked for, and the next one then asks for the rest.  When a
request fails, what this read had gathered is lost.

Closing a stream closes the body below it.  A body that refuses to be closed is asked again by the
next close.
-/

namespace ObjectWatch
namespace Gzip

/-- A stream of decompressed bytes. -/
structure Stream where
  reader : Reader
  /-- The bytes of the block that were not read yet. -/
  block : Bytes := []
  closed : Bool := false

/-- The size of a block. -/
def blockSize : Nat := 8192

namespace Stream

/-- A stream over a body from which nothing was read. -/
def ofBody (body : Body) : Stream :=
  { reader := { source := { pending := [], body } } }

/-- The body below the stream. -/
def body (stream : Stream) : Body := stream.reader.source.body

/-- Run a computation on the reader below the block. -/
def onReader {α : Type} (act : Attempt Reader α) : Attempt Stream α := fun stream =>
  match act stream.reader with
  | .ok value reader => .ok value { stream with reader }
  | .error fault reader => .error fault { stream with reader }

/-- The number of bytes in the whole blocks that fit into `size` bytes. -/
def wholeBlocks (size : Nat) : Nat := size / blockSize * blockSize

/-- Read whole blocks for as long as at least one is wanted.  The answer is what was read and whether
the data has ended. -/
def readBlocks (bound : Nat) :
    (rounds wanted : Nat) -> (got : List Bytes) -> Attempt Reader (List Bytes × Nat × Bool)
  | 0, wanted, got => return (got, wanted, false)
  | rounds + 1, wanted, got => do
      if wholeBlocks wanted = 0 then return (got, wanted, false)
      let chunk <- Reader.read bound (wholeBlocks wanted)
      if chunk.isEmpty then return (got, wanted, true)
      readBlocks bound rounds (wanted - chunk.length) (chunk :: got)

/-- Fill a new block until it holds what is wanted or the data has ended.  The pieces come back in
reverse. -/
def fillBlock (bound : Nat) :
    (rounds wanted : Nat) -> (got : List Bytes) -> (room : Nat) -> Attempt Reader (List Bytes)
  | 0, _, got, _ => return got
  | rounds + 1, wanted, got, room => do
      if wanted = 0 then return got
      let chunk <- Reader.read bound room
      if chunk.isEmpty then return got
      fillBlock bound rounds (wanted - chunk.length) (chunk :: got) (room - chunk.length)

/-- The pieces in the order in which they were read. -/
def joined (pieces : List Bytes) : Bytes := pieces.reverse.flatten

/-- Read `size` bytes, or what is left of the data. -/
def readUpTo (size : Nat) : Attempt Stream Bytes := do
  let stream <- get
  if size ≤ stream.block.length then
    set { stream with block := stream.block.drop size }
    return stream.block.take size
  let taken := stream.block
  let bound := stream.reader.bound
  set { stream with block := [] }
  let (blocks, wanted, ended) <- onReader (readBlocks bound size (size - taken.length) [])
  if ended then return taken ++ joined blocks
  let filled := joined (<- onReader (fillBlock bound wanted wanted [] blockSize))
  modify fun stream => { stream with block := filled.drop wanted }
  return taken ++ joined blocks ++ filled.take wanted

/-- A bound on the number of bytes that are still to come: what is decoded and not handed out, and
the longest match for every bit that was not read yet. -/
def outputBound (stream : Stream) : Nat :=
  let decoded := match stream.reader.place with
    | .betweenMembers => 0
    | .inMember inflater => inflater.output.size - inflater.delivered
  stream.block.length + decoded + 258 * (8 * stream.reader.source.remaining + 9)

/-- Read pieces until the data has ended. -/
def drain (bound : Nat) : (rounds : Nat) -> (got : List Bytes) -> Attempt Reader Bytes
  | 0, got => return joined got
  | rounds + 1, got => do
      let chunk <- Reader.read bound unlimited
      if chunk.isEmpty then return joined got
      drain bound rounds (chunk :: got)

/-- Read everything that is left. -/
def readAll : Attempt Stream Bytes := do
  let stream <- get
  set { stream with block := [] }
  let rest <- onReader (drain stream.reader.bound (stream.outputBound + 1) [])
  return stream.block ++ rest

/-- Read a given number of bytes, or everything for the number -1. -/
def read (size : Int) : Attempt Stream Bytes := do
  if (<- get).closed then throw (.badValue "I/O operation on closed file")
  if size < -1 then throw (.badValue "read length must be non-negative or -1")
  if size = -1 then readAll else readUpTo size.toNat

/-- Close the stream and the body below it. -/
def close : Attempt Stream Unit := fun stream =>
  match stream.body.close with
  | .ok () body => .ok () { stream with closed := true, reader.source.body := body }
  | .error fault body => .error fault { stream with closed := true, reader.source.body := body }

/-- Fill the block for the first time. -/
def prime : Attempt Stream Unit := do
  let bound := (<- get).reader.bound
  let chunk <- onReader (Reader.read bound blockSize)
  modify fun stream => { stream with block := chunk }

end Stream

/-- Open the content of a body.  When it turns out not to be gzip the body is closed, and a body that
refuses to be closed is what is reported then.  Any other fault leaves the body as it is. -/
def openBody (body : Body) : Except (Fault × Body) Stream :=
  match Stream.prime (Stream.ofBody body) with
  | .ok () stream => .ok stream
  | .error fault stream =>
      if fault.spoilsOpening then
        match stream.close with
        | .ok () stream => .error (fault, stream.body)
        | .error closeFault stream => .error (closeFault, stream.body)
      else .error (fault, stream.body)

end Gzip
end ObjectWatch
