import ObjectWatch.Decimal.Shortest

/-!
# Whole numbers among the doubles

A finite double is a natural number times a power of two, so whether it is whole, and which whole
number it is, is decided without rounding.
-/

namespace ObjectWatch
namespace Decimal

/-- The natural number that a binary number equals, if it equals one. -/
def Binary.whole? (x : Binary) : Option Nat :=
  if 0 ≤ x.exponent then some (x.mantissa * Nat.pow 2 x.exponent.toNat)
  else
    let unit := Nat.pow 2 (-x.exponent).toNat
    if x.mantissa % unit = 0 then some (x.mantissa / unit) else none

/-- The integer that a double equals, if it equals one. -/
def whole? (x : Float) : Option Int :=
  if x.isFinite then
    (Binary.ofBits x.toBits).whole?.map fun n => if x.toBits >>> 63 = 1 then -(n : Int) else n
  else none

end Decimal
end ObjectWatch
