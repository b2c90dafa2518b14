import ObjectWatch.Value
import ObjectWatch.Decimal.Notation
import ObjectWatch.Text.Quoted

/-!
# Values as JSON

The written form of a value, in which notices are logged.  Control characters, the quotation mark
and the backslash are escaped, every other character stands for itself, and numbers have the form in
which they are shown elsewhere.
-/

namespace ObjectWatch
namespace Value

/-- One character of a written text. -/
def writtenChar (c : Char) : String :=
  if c = '"' then "\\\""
  else if c = '\\' then "\\\\"
  else if c.toNat < 0x20 then "\\u" ++ Text.hexPadded 4 c.toNat
  else String.singleton c

/-- A written text, after what was written before. -/
def appendText (before s : String) : String :=
  s.foldl (fun acc c => acc ++ writtenChar c) (before.push '"') |>.push '"'

mutual

/-- A written value, after what was written before. -/
def append (before : String) : Value -> String
  | null => before ++ "null"
  | bool b => before ++ (if b then "true" else "false")
  | int n => before ++ toString n
  | float x => before ++ Decimal.shown x
  | text s => appendText before s
  | list items => (appendItems (before.push '[') items).push ']'
  | object entries => (appendEntries (before.push '\x7b') entries).push '\x7d'

/-- The written items of a list. -/
def appendItems (before : String) : List Value -> String
  | [] => before
  | [item] => append before item
  | item :: items => appendItems ((append before item).push ',') items

/-- The written entries of an object. -/
def appendEntries (before : String) : List (String × Value) -> String
  | [] => before
  | [(name, value)] => append ((appendText before name).push ':') value
  | (name, value) :: entries =>
      appendEntries ((append ((appendText before name).push ':') value).push ',') entries

end

/-- The written form of a value. -/
def written (value : Value) : String := append "" value

end Value
end ObjectWatch
