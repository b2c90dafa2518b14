import ObjectWatch.Gzip.Header
import ObjectWatch.Deflate.Block

/-!
# The format of gzip files

The format, read from the whole file at once.  A gzip file is empty or a sequence of members, each of
which may be followed by zero bytes.  A member is a header, compressed data, and the checksum and the
length of what the data stands for.

What a file stands for is the content of its members, one after another.
-/

namespace ObjectWatch
namespace Gzip

/-- What follows an extra field, which tells its size. -/
def afterExtra? : Bytes -> Option Bytes
  | low :: high :: rest =>
      let size := Source.littleEndian [low, high]
      if rest.length < size then none else some (rest.drop size)
  | _ => none

/-- What follows a name, which ends with a zero byte or with the file. -/
def afterName (bytes : Bytes) : Bytes := (bytes.dropWhile (· != 0)).drop 1

/-- What follows a header checksum. -/
def afterChecksum? : Bytes -> Option Bytes
  | _ :: _ :: rest => some rest
  | _ => none

/-- What follows the fields that the flags announce. -/
def afterFields? (flags : UInt8) (bytes : Bytes) : Option Bytes := do
  let bytes <- if hasFlag flags extraFlag then afterExtra? bytes else some bytes
  let bytes := if hasFlag flags nameFlag then afterName bytes else bytes
  let bytes := if hasFlag flags commentFlag then afterName bytes else bytes
  if hasFlag flags checksumFlag then afterChecksum? bytes else some bytes

/-- What follows the header at the front of bytes. -/
def afterHeader? : Bytes -> Option Bytes
  | first :: second :: method :: flags :: _ :: _ :: _ :: _ :: _ :: _ :: rest =>
      if [first, second] = magic ∧ method = deflateMethod then afterFields? flags rest else none
  | _ => none

/-- Whether a trailer belongs to a content. -/
def isTrailer (content trailer : Bytes) : Bool :=
  trailer.length == 8 &&
    Source.littleEndian (trailer.take 4) == (Checksum.crc32 content).toNat &&
    Source.littleEndian (trailer.drop 4) == content.length % lengthModulus

/-- The content of the member at the front of bytes, and the bytes after it. -/
def member? (bytes : Bytes) : Option (Bytes × Bytes) := do
  let compressed <- afterHeader? bytes
  let (content, rest) <- Deflate.decode? compressed
  if isTrailer content (rest.take 8) then some (content, rest.drop 8) else none

/-- The contents of members, one after another.  Every member takes at least one byte. -/
def contents? : (rounds : Nat) -> Bytes -> Option Bytes
  | _, [] => some []
  | 0, _ => none
  | rounds + 1, bytes => do
      let (content, rest) <- member? bytes
      return content ++ (<- contents? rounds (rest.dropWhile (· == 0)))

/-- The content of a gzip file. -/
def decode? (bytes : Bytes) : Option Bytes := contents? bytes.length bytes

/-- The empty file has no members and an empty content. -/
theorem decode?_nil : decode? [] = some [] := rfl

end Gzip
end ObjectWatch
