/-!
# Parts of texts

Whether a text occurs inside another one, and what is kept here of a text that holds a report on settings.

Such a report runs over many lines: the first one counts the problems, and those after it describe them one
by one.  The program prints and logs the report as a whole.  This library has no wording for the descriptions,
so of a text that is printed or logged it keeps the lines up to the one that counts problems.
-/

namespace ObjectWatch
namespace Text

/-- Whether a text occurs inside another one. -/
def occurs (part : List Char) : List Char -> Bool
  | [] => part.isEmpty
  | c :: cs => part.isPrefixOf (c :: cs) || occurs part cs

/-- The words with which a line counts the problems of settings. -/
def countingWords : List String := [" validation error for ", " validation errors for "]

/-- Whether a line counts the problems of settings. -/
def countsProblems (line : String) : Bool :=
  countingWords.any fun words => occurs words.toList line.toList

/-- The lines up to and including the first one that counts problems. -/
def throughCount : List String -> List String
  | [] => []
  | line :: lines => if countsProblems line then [line] else line :: throughCount lines

/-- A text without the lines after the one that counts problems.  The program shows them too. -/
def abridged (s : String) : String :=
  "\n".intercalate (throughCount (s.splitOn "\n"))

end Text
end ObjectWatch
