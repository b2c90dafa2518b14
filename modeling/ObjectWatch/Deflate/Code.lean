/-!
# Prefix codes

A prefix code is a binary tree: a codeword is the path to its symbol.  Compressed blocks transmit a
code as the list of codeword lengths of its symbols, and the codewords follow from the lengths:
shorter codewords come first, codewords of one length are in the order of their symbols, and each
one is the leftmost path that is still free.

The lengths of a code fill a share of the tree, its `weight`.  A code that fills the tree exactly
leaves no path undefined.  Of the codes that fill less, only the code of a single symbol of length
one and the code without any symbol are accepted, and the latter not where it would be used to
transmit further lengths.
-/

namespace ObjectWatch
namespace Deflate

/-- A prefix code as a tree.  A `missing` subtree is a path that no codeword takes. -/
inductive Code where
  | missing
  | symbol (value : Nat)
  | branch (zero one : Code)
deriving Inhabited

namespace Code

/-- The longest codeword. -/
def maxLength : Nat := 15

/-- One step down the tree. -/
def follow (bit : Bool) : Code -> Code
  | branch zero one => if bit then one else zero
  | _ => missing

/-- Grow the tree below a path of the given depth, taking codewords from the front of the list for
as long as they fit, and return those that are left. -/
def grow : (levels depth : Nat) -> List (Nat × Nat) -> Code × List (Nat × Nat)
  | _, _, [] => (missing, [])
  | 0, depth, (length, value) :: rest =>
      if length = depth then (symbol value, rest) else (missing, (length, value) :: rest)
  | levels + 1, depth, (length, value) :: rest =>
      if length = depth then (symbol value, rest)
      else
        let (zero, rest) := grow levels (depth + 1) ((length, value) :: rest)
        let (one, rest) := grow levels (depth + 1) rest
        (branch zero one, rest)

/-- The symbols with a codeword, each after its length, in the order of their codewords. -/
def ordered (lengths : List Nat) : List (Nat × Nat) :=
  (List.range' 1 maxLength).flatMap fun length =>
    lengths.zipIdx.filter fun entry => entry.1 == length

/-- The tree that the lengths describe. -/
def ofLengths (lengths : List Nat) : Code :=
  (grow maxLength 0 (ordered lengths)).1

/-- The share of the tree that one codeword of the given length fills, in units of the shares of
the longest codewords.  A symbol of length zero has no codeword. -/
def share (length : Nat) : Nat :=
  if length = 0 then 0 else Nat.pow 2 (maxLength - length)

/-- The share of the tree that the lengths fill. -/
def weight (lengths : List Nat) : Nat :=
  (lengths.map share).foldr (· + ·) 0

/-- The weight of a code that leaves no path undefined. -/
def fullWeight : Nat := Nat.pow 2 maxLength

/-- Whether no symbol has a codeword. -/
def isEmpty (lengths : List Nat) : Bool :=
  lengths.all (· == 0)

/-- The code in which the lengths of further codes are transmitted.  Without any symbol every
codeword has one bit and stands for the length zero. -/
def forLengths? (lengths : List Nat) : Option Code :=
  if isEmpty lengths then some (branch (symbol 0) (symbol 0))
  else if weight lengths = fullWeight then some (ofLengths lengths)
  else none

/-- A code of literals or of distances.  It may consist of a single codeword of one bit, and it may
be empty, in which case the first bit read through it is an error. -/
def forSymbols? (lengths : List Nat) : Option Code :=
  if isEmpty lengths then some (branch missing missing)
  else if weight lengths = fullWeight then some (ofLengths lengths)
  else if weight lengths < fullWeight ∧ lengths.all (· ≤ 1) then some (ofLengths lengths)
  else none

end Code
end Deflate
end ObjectWatch
