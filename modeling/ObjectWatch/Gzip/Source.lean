import ObjectWatch.Body

/-!
# Reading ahead and pushing back

A gzip reader takes compressed data in large pieces and finds out only afterwards how much of a
piece belonged to the compressed stream.  A source is a body with the bytes that were pushed back in
front of it.

A read is served from the pushed-back bytes when they suffice.  Otherwise they are all taken and the
body is asked once for the remainder; should the body fail then, they are lost.
-/

namespace ObjectWatch
namespace Gzip

/-- A body with pushed-back bytes in front of it. -/
structure Source where
  pending : Bytes
  body : Body

namespace Source

/-- How many bytes are left at most. -/
def remaining (source : Source) : Nat :=
  source.pending.length + source.body.rest.length

/-- Read up to `size` bytes. -/
def read (size : Nat) : Attempt Source Bytes := fun source =>
  if size ≤ source.pending.length ∧ source.pending ≠ [] then
    .ok (source.pending.take size) { source with pending := source.pending.drop size }
  else
    match source.body.read (some (size - source.pending.length)) with
    | .ok chunk body => .ok (source.pending ++ chunk) { pending := [], body }
    | .error fault body => .error fault { pending := [], body }

/-- Put bytes back in front. -/
def pushBack (bytes : Bytes) : Attempt Source Unit :=
  modify fun source => { source with pending := bytes ++ source.pending }

/-- The fault of data that ends too early. -/
def truncated : Fault :=
  .endOfData "Compressed file ended before the end-of-stream marker was reached"

/-- Read what is missing of a field.  Every read brings at least one byte, so as many rounds as bytes
are missing suffice. -/
def complete : (rounds missing : Nat) -> Bytes -> Attempt Source Bytes
  | 0, missing, got => if missing = 0 then pure got else throw truncated
  | rounds + 1, missing, got => do
      if missing = 0 then return got
      let chunk <- read missing
      if chunk.isEmpty then throw truncated
      complete rounds (missing - chunk.length) (got ++ chunk)

/-- Read a field of exactly `size` bytes. -/
def readExactly (size : Nat) : Attempt Source Bytes := do
  let chunk <- read size
  complete (size - chunk.length) (size - chunk.length) chunk

/-- Read up to and including the first zero byte, or to the end of the data. -/
def skipName : (rounds : Nat) -> Attempt Source Unit
  | 0 => pure ()
  | rounds + 1 => do
      match <- read 1 with
      | [] => pure ()
      | 0 :: _ => pure ()
      | _ => skipName rounds

/-- Read zero bytes for as long as there are any, and put the first other byte back. -/
def skipPadding : (rounds : Nat) -> Attempt Source Unit
  | 0 => pure ()
  | rounds + 1 => do
      match <- read 1 with
      | [] => pure ()
      | 0 :: _ => skipPadding rounds
      | chunk => pushBack chunk

/-- A natural number from its bytes, lowest byte first. -/
def littleEndian : Bytes -> Nat
  | [] => 0
  | byte :: bytes => byte.toNat + 256 * littleEndian bytes

end Source
end Gzip
end ObjectWatch
