import ObjectWatch.Gzip.Source

/-!
# The header of a gzip member

A member begins with two magic bytes and eight bytes of fixed layout, of which the method and the
flags matter.  The flags announce an extra field, a name, a comment and a checksum of the header, in
this order; none of them is interpreted.  The magic bytes are read by a single request, so a body
that serves one byte at a time does not show them.
-/

namespace ObjectWatch
namespace Gzip

/-- The bytes that begin every member. -/
def magic : Bytes := [0x1f, 0x8b]

/-- The only compression method. -/
def deflateMethod : UInt8 := 8

/-- A header checksum follows. -/
def checksumFlag : UInt8 := 0x02

/-- An extra field follows. -/
def extraFlag : UInt8 := 0x04

/-- A name follows. -/
def nameFlag : UInt8 := 0x08

/-- A comment follows. -/
def commentFlag : UInt8 := 0x10

/-- The length of a content is told modulo this number. -/
def lengthModulus : Nat := 0x100000000

/-- Whether a flag is set. -/
def hasFlag (flags flag : UInt8) : Bool := flags &&& flag != 0

/-- The fault of data that is not a gzip file. -/
def notGzip (message : String) : Fault := .system .notGzip message

/-- Read the fields that the flags announce.  The bound is on the number of bytes left. -/
def skipFields (bound : Nat) (flags : UInt8) : Attempt Source Unit := do
  if hasFlag flags extraFlag then
    let size <- Source.readExactly 2
    let _ <- Source.readExactly (Source.littleEndian size)
  if hasFlag flags nameFlag then
    Source.skipName bound
  if hasFlag flags commentFlag then
    Source.skipName bound
  if hasFlag flags checksumFlag then
    let _ <- Source.readExactly 2

/-- Read the header of the next member.  The answer is whether there is one; the end of the data is
the only other thing that may stand in its place. -/
def readHeader (bound : Nat) : Attempt Source Bool := do
  let start <- Source.read 2
  if start = [] then return false
  if start ≠ magic then throw (notGzip ("Not a gzipped file (" ++ Text.quotedBytes start ++ ")"))
  let fixed <- Source.readExactly 8
  if fixed[0]? ≠ some deflateMethod then throw (notGzip "Unknown compression method")
  skipFields bound (fixed[1]?.getD 0)
  return true

end Gzip
end ObjectWatch
