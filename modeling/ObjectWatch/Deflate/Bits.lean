import ObjectWatch.Checksum

/-!
# Bits

Compressed data is a sequence of bits.  Every byte gives its lowest bit first, and a number in the
data gives its lowest bit first as well.  What is read from the front of the bits leaves the others
behind, and it is nothing at all when there are too few of them.
-/

namespace ObjectWatch
namespace Deflate

/-- Bits in the order in which they are read. -/
abbrev Bits := List Bool

/-- Something that is read from the front of bits. -/
abbrev FromBits := StateT Bits Option

/-- The bits of a byte. -/
def bitsOf (byte : UInt8) : Bits :=
  (List.range 8).map fun place => byte.toNat.testBit place

/-- The bits of bytes. -/
def bitsOfBytes (bytes : Bytes) : Bits := bytes.flatMap bitsOf

theorem length_bitsOf (byte : UInt8) : (bitsOf byte).length = 8 := by
  simp [bitsOf]

theorem length_bitsOfBytes (bytes : Bytes) : (bitsOfBytes bytes).length = 8 * bytes.length := by
  induction bytes with
  | nil => rfl
  | cons byte bytes inductionHypothesis =>
      have split : bitsOfBytes (byte :: bytes) = bitsOf byte ++ bitsOfBytes bytes := rfl
      rw [split, List.length_append, length_bitsOf, inductionHypothesis, List.length_cons]
      omega

namespace FromBits

/-- The next bit. -/
def bit : FromBits Bool := fun
  | [] => none
  | bit :: rest => some (bit, rest)

/-- A number of the given size in bits. -/
def number : (size : Nat) -> FromBits Nat
  | 0 => return 0
  | size + 1 => do
      let low <- bit
      let high <- number size
      return low.toNat + 2 * high

/-- Skip what is left of a byte that was begun.  The bits come from whole bytes, so their number says
how much that is. -/
def align : FromBits Unit := modify fun bits => bits.drop (bits.length % 8)

/-- Read the same thing several times. -/
def repeated {α : Type} (act : FromBits α) : (count : Nat) -> FromBits (List α)
  | 0 => return []
  | count + 1 => do
      let first <- act
      return first :: (<- repeated act count)

end FromBits
end Deflate
end ObjectWatch
