/-!
# The shortest decimal of a binary number

A finite positive binary number stands for the interval of reals that round to it.  This module
selects, in exact arithmetic on natural numbers, the decimal with the fewest digits in that
interval, and of several such decimals the one closest to the number.

The interval reaches halfway to the two neighbouring binary numbers.  It contains its ends exactly
when the mantissa is even, because a tie between two neighbours rounds to the even one.
-/

namespace ObjectWatch
namespace Decimal

/-- A finite positive binary number `mantissa * 2 ^ exponent`.  Just above a power of two the gap
to the number below is half the gap to the number above. -/
structure Binary where
  mantissa : Nat
  exponent : Int
  narrowBelow : Bool

/-- The magnitude held in the bits of a finite double. -/
def Binary.ofBits (bits : UInt64) : Binary :=
  let field := ((bits >>> 52) &&& 0x7ff).toNat
  let fraction := (bits &&& 0xfffffffffffff).toNat
  if field = 0 then ⟨fraction, -1074, false⟩
  else ⟨0x10000000000000 + fraction, (field : Int) - 1075, fraction == 0 && 1 < field⟩

/-- A decimal number `digits * 10 ^ exponent`. -/
structure Digits where
  digits : Nat
  exponent : Int
deriving DecidableEq

/-- The quotient of `m * 2 ^ q` and `10 ^ g`, as a numerator and a denominator. -/
def ratio (m : Nat) (q g : Int) : Nat × Nat :=
  (m * Nat.pow 2 q.toNat * Nat.pow 10 (-g).toNat, Nat.pow 2 (-q).toNat * Nat.pow 10 g.toNat)

/-- Whether the decimal lies in the interval of reals that round to the binary number.  The ends of
the interval are whole multiples of a quarter of the last binary place. -/
def Binary.covers (x : Binary) (d : Digits) : Bool :=
  let below := ratio (4 * x.mantissa - (if x.narrowBelow then 1 else 2)) (x.exponent - 2) d.exponent
  let above := ratio (4 * x.mantissa + 2) (x.exponent - 2) d.exponent
  if x.mantissa % 2 = 0 then
    below.1 ≤ d.digits * below.2 && d.digits * above.2 ≤ above.1
  else
    below.1 < d.digits * below.2 && d.digits * above.2 < above.1

/-- The better of the two neighbours of the number on the grid of multiples of `10 ^ grid`, if
either rounds to it.  Of two that do, the closer one is taken, and on a tie the even one. -/
def Binary.onGrid? (x : Binary) (grid : Int) : Option Digits :=
  let (num, den) := ratio x.mantissa x.exponent grid
  let low : Digits := ⟨num / den, grid⟩
  let high : Digits := ⟨num / den + 1, grid⟩
  match x.covers low, x.covers high with
  | false, false => none
  | true, false => some low
  | false, true => some high
  | true, true =>
      if 2 * num < (2 * low.digits + 1) * den then some low
      else if (2 * low.digits + 1) * den < 2 * num then some high
      else some (if low.digits % 2 = 0 then low else high)

/-- A power of ten above the number: `0.30103` exceeds the decimal logarithm of two, and the
additional places make up for the rounding down. -/
def Binary.topGrid (x : Binary) : Int :=
  ((Nat.log2 x.mantissa : Int) + 1 + x.exponent) * 30103 / 100000 + 2

/-- The decimal that equals the binary number. -/
def Binary.exact (x : Binary) : Digits :=
  if 0 ≤ x.exponent then ⟨x.mantissa * Nat.pow 2 x.exponent.toNat, 0⟩
  else ⟨x.mantissa * Nat.pow 5 (-x.exponent).toNat, x.exponent⟩

/-- The shortest decimal that rounds to the number: the first hit on grids of growing fineness.
Twenty-two grids from above the leading digit reach past the seventeen digits that always suffice. -/
def Binary.shortest (x : Binary) : Digits :=
  ((List.range 22).findSome? fun (step : Nat) => x.onGrid? (x.topGrid - step)).getD x.exact

/-- Whatever a grid offers rounds to the number. -/
theorem Binary.covers_onGrid? {x : Binary} {grid : Int} {d : Digits}
    (found : x.onGrid? grid = some d) : x.covers d = true := by
  unfold Binary.onGrid? at found
  dsimp only at found
  split at found
  · cases found
  · next low _ => cases found; exact low
  · next _ high => cases found; exact high
  · next low high =>
    split at found
    · cases found; exact low
    · split at found
      · cases found; exact high
      · split at found
        · cases found; exact low
        · cases found; exact high

end Decimal
end ObjectWatch
