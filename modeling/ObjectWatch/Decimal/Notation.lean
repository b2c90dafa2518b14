import ObjectWatch.Decimal.Shortest

/-!
# Numbers as they are shown

Intervals and other measured quantities are shown with the fewest digits that read back, in
positional notation while the leading digit stands between the fourth decimal place and the
sixteenth place before the point, and in scientific notation otherwise.  A whole number keeps one
zero after the point, so it cannot be mistaken for a count.
-/

namespace ObjectWatch
namespace Decimal

/-- The digits of a natural number. -/
def digitChars (n : Nat) : List Char := Nat.toDigits 10 n

/-- Positional notation is used from this exponent of the leading digit on. -/
def positionalFrom : Int := -4

/-- Positional notation is used below this exponent of the leading digit. -/
def positionalBelow : Int := 16

/-- The exponent part has a sign and at least two digits. -/
def exponentChars (e : Int) : List Char :=
  let digits := digitChars e.natAbs
  'e' :: (if e < 0 then '-' else '+') :: (List.replicate (2 - digits.length) '0' ++ digits)

/-- The characters of a decimal without its sign. -/
def layout (d : Digits) : List Char :=
  let digits := digitChars d.digits
  let leading := (digits.length : Int) - 1 + d.exponent
  if positionalFrom ≤ leading ∧ leading < positionalBelow then
    if 0 ≤ d.exponent then
      digits ++ List.replicate d.exponent.toNat '0' ++ ['.', '0']
    else if 0 ≤ leading then
      digits.take (leading.toNat + 1) ++ '.' :: digits.drop (leading.toNat + 1)
    else
      '0' :: '.' :: (List.replicate (-leading - 1).toNat '0' ++ digits)
  else
    match digits with
    | [] => exponentChars leading
    | [first] => first :: exponentChars leading
    | first :: rest => first :: '.' :: (rest ++ exponentChars leading)

/-- A number as it is shown.  The sign of zero is kept, and a value that is no number has no
sign. -/
def shown (x : Float) : String :=
  if x.isNaN then "nan"
  else
    let magnitude :=
      if x.isInf then ['i', 'n', 'f']
      else
        let binary := Binary.ofBits x.toBits
        if binary.mantissa = 0 then ['0', '.', '0'] else layout binary.shortest
    String.ofList (if x.toBits >>> 63 = 1 then '-' :: magnitude else magnitude)

end Decimal
end ObjectWatch
