import ObjectWatch.Value
import ObjectWatch.Settings.Problem
import ObjectWatch.Decimal.Reading
import ObjectWatch.Decimal.Whole
import ObjectWatch.Text.Blank
import ObjectWatch.Text.Casing

/-!
# Reading the value of a setting

A setting may be given as a value of its own type or as a text that spells one, because the
environment holds nothing but texts.  Each function here reads one type.  Numbers convert where
nothing is lost; a text is never made from anything else.
-/

namespace ObjectWatch
namespace Coercion

/-- The integers of 64 bits lie below this bound, and not below its negative. -/
def wordBound : Int := 0x8000000000000000

/-- Whether an integer has 64 bits. -/
def isWord (n : Int) : Bool := -wordBound ≤ n && n < wordBound

/-- A text. -/
def text : Value -> Except Complaint String
  | .text s => .ok s
  | _ => .error .notText

/-- A text or nothing. -/
def optional {α : Type} (read : Value -> Except Complaint α) : Value -> Except Complaint (Option α)
  | .null => .ok none
  | value => (read value).map some

/-- The text without its underscores, provided that each of them stands alone and inside. -/
def withoutUnderscores? : List Char -> Option (List Char)
  | cs =>
      if cs.head? = some '_' ∨ cs.getLast? = some '_' then none
      else if (cs.zip cs.tail).any fun pair => pair.1 == '_' && pair.2 == '_' then none
      else some (cs.filter (· != '_'))

/-- The number that a text spells.  It may stand between blanks or group its digits by underscores,
but not both. -/
def spelledNumber? (s : String) : Option Float :=
  match Decimal.read? (Text.trimWhile Text.isSpace s.toList) with
  | some x => some x
  | none => (withoutUnderscores? s.toList).bind Decimal.read?

/-- A number.  An integer beyond the range of numbers is none. -/
def number : Value -> Except Complaint Float
  | .float x => .ok x
  | .int n => if (Float.ofInt n).isInf then .error .notNumber else .ok (Float.ofInt n)
  | .bool b => .ok (if b then 1.0 else 0.0)
  | .text s =>
      match spelledNumber? s with
      | some x => .ok x
      | none => .error .numberSpelling
  | _ => .error .notNumber

/-- The most digits that a spelled integer has. -/
def maxDigits : Nat := 4300

/-- A spelled integer without its leading zeros.  The underscores among and after them go with them,
but no underscore may stand for the last zero where that is all of the number in front of the point.
After leading zeros a minus sign may follow. -/
def dropZeros? : List Char -> Option (List Char)
  | [] => none
  | '0' :: rest =>
      let isFiller := fun c => c == '0' || c == '_'
      let isClosed := (rest.takeWhile isFiller).getLast? != some '_'
      match rest.dropWhile isFiller with
      | [] => if isClosed then some ['0'] else none
      | '.' :: fraction => if isClosed then some ('0' :: '.' :: fraction) else none
      | c :: rest => if c.isDigit ∨ c = '-' then some (c :: rest) else none
  | c :: rest => if c.isDigit then some (c :: rest) else none

/-- What stands in front of a point that only zeros follow, or everything. -/
def dropFraction (cs : List Char) : List Char :=
  match cs.dropWhile (· != '.') with
  | '.' :: zeros =>
      if !zeros.isEmpty && zeros.all (· == '0') then cs.takeWhile (· != '.') else cs
  | _ => cs

/-- Whether a text begins with too many digits, after a minus sign or without one.  A zero in front
makes it another spelling, whose zeros do not count. -/
def isOversized (cs : List Char) : Bool :=
  let digits := (if cs.head? = some '-' then cs.tail else cs).takeWhile Char.isDigit
  digits.head? != some '0' && maxDigits < digits.length

/-- The integer that digits spell.  There must not be too many of them, and more than one must not
begin with a zero. -/
def digitsInteger (negative : Bool) (cs : List Char) : Except Complaint Int :=
  if cs = ['0'] then .ok 0
  else if cs.isEmpty ∨ cs.head? = some '0' ∨ maxDigits < cs.length ∨ !cs.all Char.isDigit then
    .error .integerSpelling
  else
    let n : Int := Decimal.digitsValue cs
    .ok (if negative then -n else n)

/-- The integer that a text without blanks around it spells: a sign, leading zeros, digits, which may
be grouped by underscores, and a point with zeros.  There is at most one minus sign. -/
def spelledInteger (cs : List Char) : Except Complaint Int :=
  let (negative, cs) := Decimal.spanSign cs
  match dropZeros? cs with
  | none => .error .integerSpelling
  | some cs =>
      let cs := dropFraction cs
      match (withoutUnderscores? cs).getD cs, negative with
      | '-' :: _, true => .error .integerSpelling
      | '-' :: cs, false => digitsInteger true cs
      | cs, negative => digitsInteger negative cs

/-- An integer.  A text that begins with too many digits is told apart from one that is no integer,
whatever follows the digits, but only if nothing stands in front of them except a minus sign. -/
def integer : Value -> Except Complaint Int
  | .int n => .ok n
  | .bool b => .ok (if b then 1 else 0)
  | .float x =>
      if !x.isFinite then .error .notFinite
      else
        match Decimal.whole? x with
        | none => .error .integerFraction
        | some n => if -wordBound < n ∧ n < wordBound then .ok n else .error .integerSize
  | .text s =>
      if isOversized s.toList then .error .integerSize
      else spelledInteger (Text.trimWhile Text.isSpace s.toList)
  | _ => .error .notInteger

/-- The texts that mean yes. -/
def yesWords : List String := ["1", "on", "t", "true", "y", "yes"]

/-- The texts that mean no. -/
def noWords : List String := ["0", "off", "f", "false", "n", "no"]

/-- A truth value given as an integer. -/
def truthOfInteger (n : Int) : Except Complaint Bool :=
  if n = 0 then .ok false
  else if n = 1 then .ok true
  else if isWord n then .error .truthSpelling
  else .error .notTruth

/-- A truth value. -/
def truth : Value -> Except Complaint Bool
  | .bool b => .ok b
  | .int n => truthOfInteger n
  | .float x =>
      match Decimal.whole? x with
      | some n => if -wordBound < n then truthOfInteger n else .error .notTruth
      | none => .error .notTruth
  | .text s =>
      let word := Text.toLowerAscii s
      if word ∈ yesWords then .ok true
      else if word ∈ noWords then .ok false
      else .error .truthSpelling
  | _ => .error .notTruth

end Coercion
end ObjectWatch
