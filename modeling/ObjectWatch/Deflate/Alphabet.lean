import ObjectWatch.Deflate.Code

/-!
# The alphabets of compressed blocks

Data of the standard: the lengths and distances that symbols stand for, the order in which the
lengths of the length code are transmitted, and the two codes that blocks with fixed codes use.
-/

namespace ObjectWatch
namespace Deflate

/-- The least value that a symbol stands for and the number of bits that say how much more. -/
structure Span where
  base : Nat
  extra : Nat

/-- The symbol that ends a block. -/
def endOfBlock : Nat := 256

/-- The match lengths, by symbol after the end of block. -/
def lengthSpans : Array Span :=
  #[⟨3, 0⟩, ⟨4, 0⟩, ⟨5, 0⟩, ⟨6, 0⟩, ⟨7, 0⟩, ⟨8, 0⟩, ⟨9, 0⟩, ⟨10, 0⟩, ⟨11, 1⟩, ⟨13, 1⟩, ⟨15, 1⟩,
    ⟨17, 1⟩, ⟨19, 2⟩, ⟨23, 2⟩, ⟨27, 2⟩, ⟨31, 2⟩, ⟨35, 3⟩, ⟨43, 3⟩, ⟨51, 3⟩, ⟨59, 3⟩, ⟨67, 4⟩,
    ⟨83, 4⟩, ⟨99, 4⟩, ⟨115, 4⟩, ⟨131, 5⟩, ⟨163, 5⟩, ⟨195, 5⟩, ⟨227, 5⟩, ⟨258, 0⟩]

/-- The match distances, by symbol. -/
def distanceSpans : Array Span :=
  #[⟨1, 0⟩, ⟨2, 0⟩, ⟨3, 0⟩, ⟨4, 0⟩, ⟨5, 1⟩, ⟨7, 1⟩, ⟨9, 2⟩, ⟨13, 2⟩, ⟨17, 3⟩, ⟨25, 3⟩, ⟨33, 4⟩,
    ⟨49, 4⟩, ⟨65, 5⟩, ⟨97, 5⟩, ⟨129, 6⟩, ⟨193, 6⟩, ⟨257, 7⟩, ⟨385, 7⟩, ⟨513, 8⟩, ⟨769, 8⟩,
    ⟨1025, 9⟩, ⟨1537, 9⟩, ⟨2049, 10⟩, ⟨3073, 10⟩, ⟨4097, 11⟩, ⟨6145, 11⟩, ⟨8193, 12⟩,
    ⟨12289, 12⟩, ⟨16385, 13⟩, ⟨24577, 13⟩]

/-- The order in which the lengths of the length code are transmitted. -/
def lengthOrder : List Nat :=
  [16, 17, 18, 0, 8, 7, 9, 6, 10, 5, 11, 4, 12, 3, 13, 2, 14, 1, 15]

/-- The lengths of the length code by symbol, from those that were transmitted.  A length that was not
transmitted is zero. -/
def bySymbol (transmitted : List Nat) : List Nat :=
  (List.range lengthOrder.length).map fun symbol => transmitted[lengthOrder.idxOf symbol]?.getD 0

/-- The codes of a block. -/
structure Codes where
  literals : Code
  distances : Code
deriving Inhabited

/-- The codes of blocks that do not transmit any.  The last two literals and the last two distances
have codewords and stand for nothing. -/
def fixedCodes : Codes where
  literals := Code.ofLengths
    (List.replicate 144 8 ++ List.replicate 112 9 ++ List.replicate 24 7 ++ List.replicate 8 8)
  distances := Code.ofLengths (List.replicate 32 5)

/-- How many lengths a block with codes of its own transmits for each of them. -/
structure Sizes where
  literals : Nat
  distances : Nat

/-- The number of lengths of both codes together. -/
def Sizes.total (sizes : Sizes) : Nat := sizes.literals + sizes.distances

/-- The most literals a block may transmit lengths for. -/
def maxLiterals : Nat := 286

/-- The most distances a block may transmit lengths for. -/
def maxDistances : Nat := 30

end Deflate
end ObjectWatch
