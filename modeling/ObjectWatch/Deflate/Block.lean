import ObjectWatch.Deflate.Alphabet
import ObjectWatch.Deflate.Bits

/-!
# The format of compressed data

The format, read from all of the data at once.  Compressed data is a sequence of blocks, the last of
which is marked.  A block holds bytes as they are, or literals and matches in two prefix codes, which
are fixed or transmitted in the block itself.  A match repeats what was decoded before it.

Nothing is said here about why data is not in the format.  What the data stands for does not depend
on how it arrives, so this is what a decompressor that works piece by piece is measured against.
-/

namespace ObjectWatch
namespace Deflate

open FromBits (bit number align repeated)

/-- The symbol of the next codeword. -/
def Code.read : Code -> FromBits Nat
  | missing => failure
  | symbol value => return value
  | branch zero one => do
      if <- bit then one.read else zero.read

/-- The value that a symbol stands for, with the bits that say how much more. -/
def readSpan (spans : Array Span) (symbol : Nat) : FromBits Nat :=
  match spans[symbol]? with
  | none => failure
  | some span => return span.base + (<- number span.extra)

/-- What a match of the given length and distance appends.  It is periodic: a match may be longer
than its distance and then repeats what it began with. -/
def matched (output : Bytes) (length distance : Nat) : Bytes :=
  (List.range length).map fun place =>
    output[output.length - distance + place % distance]?.getD 0

theorem length_matched (output : Bytes) (length distance : Nat) :
    (matched output length distance).length = length := by
  simp [matched]

/-- The literals and matches of a block up to its end, appended to the output.  Each of them takes at
least one bit, so the number of bits bounds the rounds. -/
def readSymbols (codes : Codes) : (rounds : Nat) -> (output : Bytes) -> FromBits Bytes
  | 0, _ => failure
  | rounds + 1, output => do
      let symbol <- codes.literals.read
      if symbol < endOfBlock then
        readSymbols codes rounds (output ++ [UInt8.ofNat symbol])
      else if symbol = endOfBlock then return output
      else
        let length <- readSpan lengthSpans (symbol - endOfBlock - 1)
        let distance <- readSpan distanceSpans (<- codes.distances.read)
        if output.length < distance then failure
        readSymbols codes rounds (output ++ matched output length distance)

/-- The bytes of a stored block.  Their number is transmitted together with its complement. -/
def readStored : FromBits Bytes := do
  align
  let length <- number 16
  let complement <- number 16
  if length + complement ≠ 0xffff then failure
  return (<- repeated (number 8) length).map UInt8.ofNat

/-- The lengths that one symbol of the length code adds to those before it. -/
def addedLengths (before : List Nat) (symbol : Nat) : FromBits (List Nat) :=
  if symbol < 16 then return [symbol]
  else if symbol = 16 then
    match before.getLast? with
    | none => failure
    | some length => return List.replicate (3 + (<- number 2)) length
  else if symbol = 17 then return List.replicate (3 + (<- number 3)) 0
  else return List.replicate (11 + (<- number 7)) 0

/-- As many lengths as are wanted, after those that were read already.  Every symbol adds one at
least. -/
def readLengths (code : Code) (wanted : Nat) :
    (rounds : Nat) -> (before : List Nat) -> FromBits (List Nat)
  | 0, before => if before.length = wanted then return before else failure
  | rounds + 1, before => do
      if before.length = wanted then return before
      let added <- addedLengths before (<- code.read)
      if wanted < before.length + added.length then failure
      readLengths code wanted rounds (before ++ added)

/-- A code that has to be acceptable. -/
def accepted (code? : Option Code) : FromBits Code :=
  match code? with
  | none => failure
  | some code => return code

/-- The codes that a block transmits. -/
def readCodes : FromBits Codes := do
  let literals := (<- number 5) + 257
  let distances := (<- number 5) + 1
  let count := (<- number 4) + 4
  if maxLiterals < literals ∨ maxDistances < distances then failure
  let code <- accepted (Code.forLengths? (bySymbol (<- repeated (number 3) count)))
  let lengths <- readLengths code (literals + distances) (literals + distances) []
  if lengths[endOfBlock]?.getD 0 = 0 then failure
  return ⟨<- accepted (Code.forSymbols? (lengths.take literals)),
    <- accepted (Code.forSymbols? (lengths.drop literals))⟩

/-- One block, appended to the output.  The answer also says whether it is the last one. -/
def readBlock (output : Bytes) : FromBits (Bool × Bytes) := do
  let final <- bit
  match <- number 2 with
  | 0 => return (final, output ++ (<- readStored))
  | 1 => return (final, <- readSymbols fixedCodes (<- get).length output)
  | 2 =>
      let codes <- readCodes
      return (final, <- readSymbols codes (<- get).length output)
  | _ => failure

/-- The blocks up to the last one, appended to the output.  Each of them takes at least one bit. -/
def readBlocks : (rounds : Nat) -> (output : Bytes) -> FromBits Bytes
  | 0, _ => failure
  | rounds + 1, output => do
      let (final, output) <- readBlock output
      if final then return output else readBlocks rounds output

/-- The bytes that compressed data at the front of bytes stands for, and the bytes after it.  A byte
that the compressed data begins belongs to it. -/
def decode? (bytes : Bytes) : Option (Bytes × Bytes) := do
  let bits := bitsOfBytes bytes
  let (output, rest) <- readBlocks bits.length [] bits
  return (output, bytes.drop (bytes.length - rest.length / 8))

end Deflate
end ObjectWatch
