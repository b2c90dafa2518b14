/-!
# White space

Two classes of white space occur in the texts this library reads.  `isSpace` is the `White_Space`
property of Unicode: it decides what may surround a number.  `isBlank` adds the four information
separators of ASCII: it decides where the words of an environment file begin and end.
-/

namespace ObjectWatch
namespace Text

/-- The `White_Space` property of Unicode. -/
def isSpace (c : Char) : Bool :=
  let n := c.toNat
  (0x09 ≤ n && n ≤ 0x0d) || n == 0x20 || n == 0x85 || n == 0xa0 || n == 0x1680 ||
    (0x2000 ≤ n && n ≤ 0x200a) || n == 0x2028 || n == 0x2029 || n == 0x202f || n == 0x205f ||
    n == 0x3000

/-- White space together with the information separators `U+001C` to `U+001F`. -/
def isBlank (c : Char) : Bool :=
  isSpace c || (0x1c ≤ c.toNat && c.toNat ≤ 0x1f)

/-- A blank that does not end a line. -/
def isInlineBlank (c : Char) : Bool :=
  isBlank c && c != '\n' && c != '\r'

/-- Remove the matching characters at the end of a list. -/
def dropEndWhile (p : Char -> Bool) (cs : List Char) : List Char :=
  (cs.reverse.dropWhile p).reverse

/-- Remove the matching characters at both ends of a list. -/
def trimWhile (p : Char -> Bool) (cs : List Char) : List Char :=
  dropEndWhile p (cs.dropWhile p)

end Text
end ObjectWatch
