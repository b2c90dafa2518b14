import ObjectWatch.Text.Printable

/-!
# Quoted text

The form in which names, tokens and raw bytes are shown inside a message.  A quoted text stands in
apostrophes, or in quotation marks when it holds an apostrophe and no quotation mark.  The
backslash, the quote in use and the three common control characters are escaped by a letter, every
other character without a visible form by its number.
-/

namespace ObjectWatch
namespace Text

/-- A number in lower-case hexadecimal, filled with zeros to the given width. -/
def hexPadded (width n : Nat) : String :=
  let digits := Nat.toDigits 16 n
  String.ofList (List.replicate (width - digits.length) '0' ++ digits)

/-- A number in lower-case hexadecimal after the mark `0x`. -/
def hexMarked (n : Nat) : String :=
  "0x" ++ String.ofList (Nat.toDigits 16 n)

/-- The quote that surrounds a text with these characters. -/
def quoteFor (cs : List Char) : Char :=
  if '\'' ∈ cs ∧ '"' ∉ cs then '"' else '\''

/-- The letter escapes, common to text and bytes. -/
def letterEscape? (quote c : Char) : Option String :=
  if c = '\\' then some "\\\\"
  else if c = quote then some (String.ofList ['\\', c])
  else if c = '\n' then some "\\n"
  else if c = '\r' then some "\\r"
  else if c = '\t' then some "\\t"
  else none

/-- The escape of a code point by number, in the shortest of the three widths. -/
def numberEscape (n : Nat) : String :=
  if n < 0x100 then "\\x" ++ hexPadded 2 n
  else if n < 0x10000 then "\\u" ++ hexPadded 4 n
  else "\\U" ++ hexPadded 8 n

/-- One character of a quoted text. -/
def quotedChar (quote c : Char) : String :=
  match letterEscape? quote c with
  | some escape => escape
  | none => if isPrintable c then String.singleton c else numberEscape c.toNat

/-- A text in quotes. -/
def quoted (s : String) : String :=
  let quote := quoteFor s.toList
  String.singleton quote ++ String.join (s.toList.map (quotedChar quote)) ++ String.singleton quote

/-- One byte of quoted bytes: the visible ASCII characters stand for themselves. -/
def quotedByte (quote : Char) (b : UInt8) : String :=
  let c := Char.ofNat b.toNat
  match letterEscape? quote c with
  | some escape => escape
  | none =>
      if 0x20 ≤ b.toNat && b.toNat < 0x7f then String.singleton c else "\\x" ++ hexPadded 2 b.toNat

/-- Bytes in quotes, after the mark `b`. -/
def quotedBytes (bytes : List UInt8) : String :=
  let quote := quoteFor (bytes.map fun b => Char.ofNat b.toNat)
  "b" ++ String.singleton quote ++ String.join (bytes.map (quotedByte quote)) ++
    String.singleton quote

/-- The truth values as they are shown inside a message. -/
def shownBool (b : Bool) : String :=
  if b then "True" else "False"

end Text
end ObjectWatch
