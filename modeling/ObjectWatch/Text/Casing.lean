/-!
# Letter case, as far as it can reach an ASCII word

Level names, format names, truth words and variable names are compared after a change of case.
The words they are compared with are ASCII, so of the full case mappings only those whose image is
an ASCII letter can decide a comparison.  Besides the ASCII letters themselves these are the
dotless `ı` and the long `ſ` going up, and the Kelvin sign going down.  Every other character is
left alone, which keeps it different from every ASCII letter.
-/

namespace ObjectWatch
namespace Text

/-- The upper-case letter, on the characters whose upper case is ASCII. -/
def upper (c : Char) : Char :=
  if c = '\u0131' then 'I' else if c = '\u017f' then 'S' else c.toUpper

/-- The lower-case letter, on the characters whose lower case is ASCII. -/
def lower (c : Char) : Char :=
  if c = '\u212a' then 'k' else c.toLower

/-- A text in upper case. -/
def toUpper (s : String) : String := s.map upper

/-- A text in lower case. -/
def toLower (s : String) : String := s.map lower

/-- A text with only its ASCII letters in lower case. -/
def toLowerAscii (s : String) : String := s.map Char.toLower

end Text
end ObjectWatch
