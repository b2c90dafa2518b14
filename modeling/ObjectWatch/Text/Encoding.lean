import ObjectWatch.Checksum
import ObjectWatch.Text.Quoted

/-!
# Character encodings

Texts are stored in UTF-8.  A text may be read under another encoding than the one in which it was
stored, and then its bytes stand for other characters, or for none.  An encoding of single bytes
refuses the bytes that it knows no character for; an encoding of pairs of bytes refuses what is not
a whole number of pairs, and surrogates that do not belong together.
-/

namespace ObjectWatch

/-- Bytes that stand for no character. -/
inductive DecodingError where
  /-- The bytes at a place, the name of the encoding, and what is wrong with them. -/
  | undecodable (encoding : String) (place : Nat) (bytes : Bytes) (reason : String)
  /-- Nothing tells the order of the bytes. -/
  | markMissing
deriving DecidableEq, Repr

namespace DecodingError

/-- The name of the kind in messages. -/
def name : DecodingError -> String
  | undecodable _ _ _ _ => "UnicodeDecodeError"
  | markMissing => "UnicodeError"

/-- The bytes and their place, as a message tells them.  A single byte is shown. -/
def subject (place : Nat) (bytes : Bytes) : String :=
  match bytes with
  | [b] => "byte 0x" ++ Text.hexPadded 2 b.toNat ++ " in position " ++ toString place
  | bytes =>
      "bytes in position " ++ toString place ++ "-" ++ toString (place + bytes.length - 1)

/-- The wording. -/
def message : DecodingError -> String
  | undecodable encoding place bytes reason =>
      "'" ++ encoding ++ "' codec can't decode " ++ subject place bytes ++ ": " ++ reason
  | markMissing => "UTF-16 stream does not start with BOM"

end DecodingError

/-- An encoding. -/
inductive Encoding where
  | utf8
  /-- In UTF-8, with a byte order mark that is no part of the text. -/
  | utf8Marked
  | ascii
  | latin1
  | windows1252
  | utf16Little
  | utf16Big
  /-- In pairs of bytes, whose order is told by a byte order mark. -/
  | utf16Marked
deriving DecidableEq, Repr

namespace Encoding

/-- The names of the encodings, in small letters and with underscores between their parts. -/
def names : List (Encoding × List String) :=
  [(utf8, ["utf_8", "utf8", "u8", "utf", "utf8_ucs2", "utf8_ucs4", "cp65001"]),
    (utf8Marked, ["utf_8_sig"]),
    (ascii, ["ascii", "us_ascii", "us", "646", "ansi_x3.4_1968", "ansi_x3_4_1968",
      "ansi_x3.4_1986", "cp367", "csascii", "ibm367", "iso646_us", "iso_646.irv_1991", "iso_ir_6"]),
    (latin1, ["latin_1", "latin1", "latin", "l1", "iso_8859_1", "iso8859_1", "iso8859", "8859",
      "cp819", "ibm819", "csisolatin1", "iso_8859_1_1987", "iso_ir_100"]),
    (windows1252, ["cp1252", "windows_1252", "1252"]),
    (utf16Little, ["utf_16_le", "utf_16le", "unicodelittleunmarked"]),
    (utf16Big, ["utf_16_be", "utf_16be", "unicodebigunmarked"]),
    (utf16Marked, ["utf_16", "utf16", "u16"])]

/-- Whether a character may stand in a part of a name. -/
def isNameChar (c : Char) : Bool := c.isAlphanum || c == '.'

/-- A name with its parts in small letters and one underscore between two of them.  The flag tells
whether a part has begun, and the next one whether it has ended. -/
def spelled : (begun ended : Bool) -> List Char -> List Char
  | _, _, [] => []
  | begun, ended, c :: cs =>
      if isNameChar c then
        if begun && ended then '_' :: c.toLower :: spelled true false cs
        else c.toLower :: spelled true false cs
      else spelled begun true cs

/-- The encoding with a given name. -/
def ofName? (name : String) : Option Encoding :=
  let name := String.ofList (spelled false false name.toList)
  (names.find? fun entry => entry.2.contains name).map Prod.fst

/-- The characters of single bytes, from a place on. -/
def decodeBytes (encoding reason : String) (char? : UInt8 -> Option Char) (place : Nat) :
    Bytes -> Except DecodingError (List Char)
  | [] => .ok []
  | b :: bytes =>
      match char? b with
      | none => .error (.undecodable encoding place [b] reason)
      | some c => (decodeBytes encoding reason char? (place + 1) bytes).map (c :: ·)

/-- The character with the number of a byte. -/
def latinChar (b : UInt8) : Char := Char.ofNat b.toNat

/-- The character of a byte that is an ASCII character. -/
def asciiChar? (b : UInt8) : Option Char :=
  if b.toNat < 0x80 then some (latinChar b) else none

/-- The characters that the encoding of Windows has in the place of control characters, from the
byte 0x80 on.  A zero stands for none. -/
def windowsNumbers : List Nat :=
  [0x20ac, 0, 0x201a, 0x192, 0x201e, 0x2026, 0x2020, 0x2021, 0x2c6, 0x2030, 0x160, 0x2039, 0x152, 0,
    0x17d, 0, 0, 0x2018, 0x2019, 0x201c, 0x201d, 0x2022, 0x2013, 0x2014, 0x2dc, 0x2122, 0x161,
    0x203a, 0x153, 0, 0x17e, 0x178]

/-- The character of a byte in the encoding of Windows. -/
def windowsChar? (b : UInt8) : Option Char :=
  if b.toNat < 0x80 then some (latinChar b)
  else
    match windowsNumbers[b.toNat - 0x80]? with
    | none => some (latinChar b)
    | some n => if n = 0 then none else some (Char.ofNat n)

/-- The number of a pair of bytes. -/
def pair (isBig : Bool) (first second : UInt8) : Nat :=
  if isBig then 256 * first.toNat + second.toNat else 256 * second.toNat + first.toNat

/-- Whether a number is that of the first surrogate of two. -/
def isHigh (n : Nat) : Bool := 0xd800 ≤ n && n < 0xdc00

/-- Whether a number is that of the second surrogate of two. -/
def isLow (n : Nat) : Bool := 0xdc00 ≤ n && n < 0xe000

/-- The characters of pairs of bytes, from a place on. -/
def decodePairs (isBig : Bool) (place : Nat) : Bytes -> Except DecodingError (List Char)
  | [] => .ok []
  | [b] => .error (problem place [b] "truncated data")
  | a :: b :: bytes =>
      let unit := pair isBig a b
      if isLow unit then .error (problem place [a, b] "illegal encoding")
      else if isHigh unit then
        match bytes with
        | c :: d :: rest =>
            let low := pair isBig c d
            if isLow low then
              (decodePairs isBig (place + 4) rest).map
                (Char.ofNat (0x10000 + 0x400 * (unit - 0xd800) + (low - 0xdc00)) :: ·)
            else .error (problem place [a, b] "illegal UTF-16 surrogate")
        | rest => .error (problem place (a :: b :: rest) "unexpected end of data")
      else (decodePairs isBig (place + 2) bytes).map (Char.ofNat unit :: ·)
where
  problem (place : Nat) (bytes : Bytes) (reason : String) : DecodingError :=
    .undecodable (if isBig then "utf-16-be" else "utf-16-le") place bytes reason

/-- Remove a byte order mark. -/
def dropMark : List Char -> List Char
  | c :: cs => if c = '\ufeff' then cs else c :: cs
  | [] => []

/-- What a text that is stored in UTF-8 reads as.  No such text begins with the mark that tells the
order of pairs, so it is missing wherever there is a pair. -/
def reread (encoding : Encoding) (text : String) : Except DecodingError String :=
  let bytes := text.toUTF8.toList
  match encoding with
  | utf8 => .ok text
  | utf8Marked => .ok (String.ofList (dropMark text.toList))
  | ascii =>
      (decodeBytes "ascii" "ordinal not in range(128)" asciiChar? 0 bytes).map String.ofList
  | latin1 => .ok (String.ofList (bytes.map latinChar))
  | windows1252 =>
      (decodeBytes "charmap" "character maps to <undefined>" windowsChar? 0 bytes).map String.ofList
  | utf16Little => (decodePairs false 0 bytes).map String.ofList
  | utf16Big => (decodePairs true 0 bytes).map String.ofList
  | utf16Marked => do
      let chars <- decodePairs false 0 bytes
      if chars.isEmpty then return "" else throw .markMissing

end Encoding
end ObjectWatch
