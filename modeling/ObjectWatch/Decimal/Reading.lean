/-!
# Reading decimal numbers

The grammar of numbers in texts: an optional sign, then digits with at most one point and at least
one digit, then an optional exponent; or the words for infinity and for no number, in any letter
case.  The value is the nearest double, a tie going to the even one.
-/

namespace ObjectWatch
namespace Decimal

/-- The digits at the beginning, and the rest. -/
def spanDigits (cs : List Char) : List Char × List Char :=
  (cs.takeWhile Char.isDigit, cs.dropWhile Char.isDigit)

/-- The value of a list of digits. -/
def digitsValue (cs : List Char) : Nat :=
  cs.foldl (fun n c => 10 * n + (c.toNat - '0'.toNat)) 0

/-- An optional sign: whether it was a minus, and the rest. -/
def spanSign : List Char -> Bool × List Char
  | '-' :: rest => (true, rest)
  | '+' :: rest => (false, rest)
  | rest => (false, rest)

/-- The double nearest to `mantissa * 10 ^ exponent`.  Far outside the range of doubles the answer
is decided by the position of the leading digit alone, so a huge exponent costs nothing. -/
def nearest (mantissa : Nat) (exponent : Int) : Float :=
  let leading := ((Nat.toDigits 10 mantissa).length : Int) + exponent
  if mantissa = 0 then 0.0
  else if 400 < leading then 1.0 / 0.0
  else if leading < -400 then 0.0
  else Float.ofScientific mantissa (exponent < 0) exponent.natAbs

/-- The exponent part of a number, `none` when the text is not one. -/
def exponentPart? : List Char -> Option Int
  | [] => some 0
  | mark :: rest =>
      if mark = 'e' ∨ mark = 'E' then
        let (negative, tail) := spanSign rest
        let (digits, after) := spanDigits tail
        if digits.isEmpty ∨ !after.isEmpty then none
        else some (if negative then -(digitsValue digits : Int) else digitsValue digits)
      else none

/-- The magnitude of a number without its sign. -/
def magnitude? (cs : List Char) : Option Float :=
  match cs.map Char.toLower with
  | ['i', 'n', 'f'] => some (1.0 / 0.0)
  | ['i', 'n', 'f', 'i', 'n', 'i', 't', 'y'] => some (1.0 / 0.0)
  | ['n', 'a', 'n'] => some (0.0 / 0.0)
  | _ =>
      let (whole, afterWhole) := spanDigits cs
      let (fraction, tail) := match afterWhole with
        | '.' :: rest => spanDigits rest
        | rest => ([], rest)
      if whole.isEmpty ∧ fraction.isEmpty then none
      else (exponentPart? tail).map fun exponent =>
        nearest (digitsValue (whole ++ fraction)) (exponent - fraction.length)

/-- The number that a text spells, `none` when it spells none. -/
def read? (cs : List Char) : Option Float :=
  let (negative, rest) := spanSign cs
  (magnitude? rest).map fun x => if negative then -x else x

end Decimal
end ObjectWatch
