/-!
# Bytes and their checksum

The cyclic redundancy check of gzip: the remainder of the message modulo the reflected polynomial
`0xedb88320`, started from all ones and complemented at the end.
-/

namespace ObjectWatch

/-- Raw data. -/
abbrev Bytes := List UInt8

namespace Checksum

/-- Divide one bit away. -/
def shiftBit (register : UInt32) : UInt32 :=
  if register &&& 1 = 1 then (register >>> 1) ^^^ 0xedb88320 else register >>> 1

/-- Take one byte into the register. -/
def pushByte (register : UInt32) (byte : UInt8) : UInt32 :=
  Nat.repeat shiftBit 8 (register ^^^ byte.toUInt32)

/-- The checksum of a message. -/
def crc32 (bytes : Bytes) : UInt32 :=
  bytes.foldl pushByte 0xffffffff ^^^ 0xffffffff

end Checksum
end ObjectWatch
