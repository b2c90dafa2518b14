import ObjectWatch.Text.Blank

/-!
# The statements of an environment file

A statement is a name, optionally after the word `export`, and optionally a value after an equals
sign; a comment may follow.  A name or a value may stand in quotes, and a quoted value may run over
several lines.  A line that is no statement is skipped from where it stopped making sense.

Inside a quoted value a backslash takes the character after it along, so a quote after a backslash
does not end the value, and a quote after two backslashes does.
-/

namespace ObjectWatch
namespace EnvFile

/-- A name with the value that was written for it, if one was. -/
structure Entry where
  name : String
  value : Option String
deriving DecidableEq, Repr

/-- A part that was read, and what comes after it. -/
abbrev Scan (α : Type) := Option (α × List Char)

/-- The text with every line ending written as a line feed, without a byte order mark. -/
def normalize : List Char -> List Char
  | '\r' :: '\n' :: rest => '\n' :: normalize rest
  | '\r' :: rest => '\n' :: normalize rest
  | c :: rest => c :: normalize rest
  | [] => []

/-- Remove the byte order mark. -/
def dropMark : List Char -> List Char
  | c :: rest => if c = '\ufeff' then rest else c :: rest
  | [] => []

/-- Skip the blanks of a line. -/
def skipInline (cs : List Char) : List Char := cs.dropWhile Text.isInlineBlank

/-- Skip the word `export` if a blank follows it. -/
def skipExport : List Char -> List Char
  | 'e' :: 'x' :: 'p' :: 'o' :: 'r' :: 't' :: c :: rest =>
      if Text.isInlineBlank c then skipInline rest
      else 'e' :: 'x' :: 'p' :: 'o' :: 'r' :: 't' :: c :: rest
  | cs => cs

/-- Whether a character may stand in a name without quotes. -/
def isNameChar (c : Char) : Bool := c != '=' && c != '#' && !Text.isBlank c

/-- A name.  A line that begins with a comment has none. -/
def scanName (cs : List Char) : Scan (Option String) :=
  match cs with
  | '#' :: _ => some (none, cs)
  | '\'' :: rest =>
      let name := rest.takeWhile (· != '\'')
      match rest.dropWhile (· != '\'') with
      | _ :: after => if name.isEmpty then none else some (some (String.ofList name), after)
      | [] => none
  | cs =>
      let name := cs.takeWhile isNameChar
      if name.isEmpty then none else some (some (String.ofList name), cs.dropWhile isNameChar)

/-- The characters up to the closing quote.  A backslash takes the character after it along. -/
def scanQuoted (quote : Char) : List Char -> Scan (List Char)
  | [] => none
  | '\\' :: c :: rest =>
      (scanQuoted quote rest).map fun (value, after) => ('\\' :: c :: value, after)
  | c :: rest =>
      if c = quote then some ([], rest)
      else (scanQuoted quote rest).map fun (value, after) => (c :: value, after)

/-- The character that an escape inside quotation marks stands for. -/
def doubleEscape? : Char -> Option Char
  | '\\' => some '\\'
  | '\'' => some '\''
  | '"' => some '"'
  | 'a' => some '\x07'
  | 'b' => some '\x08'
  | 'f' => some '\x0c'
  | 'n' => some '\n'
  | 'r' => some '\r'
  | 't' => some '\t'
  | 'v' => some '\x0b'
  | _ => none

/-- The character that an escape inside apostrophes stands for. -/
def singleEscape? : Char -> Option Char
  | '\\' => some '\\'
  | '\'' => some '\''
  | _ => none

/-- Replace the escapes of a quoted value. -/
def unescape (escape? : Char -> Option Char) : List Char -> List Char
  | '\\' :: c :: rest =>
      match escape? c with
      | some d => d :: unescape escape? rest
      | none => '\\' :: unescape escape? (c :: rest)
  | c :: rest => c :: unescape escape? rest
  | [] => []

/-- The part of a line in front of a comment, which begins with a blank and a number sign. -/
def beforeComment : List Char -> List Char
  | [] => []
  | c :: rest =>
      if Text.isBlank c ∧ ((c :: rest).dropWhile Text.isBlank).head? = some '#' then []
      else c :: beforeComment rest

/-- A value, without the comment that may follow a value without quotes. -/
def scanValue (cs : List Char) : Scan String :=
  match cs with
  | '\'' :: rest =>
      (scanQuoted '\'' rest).map fun (value, after) =>
        (String.ofList (unescape singleEscape? value), after)
  | '"' :: rest =>
      (scanQuoted '"' rest).map fun (value, after) =>
        (String.ofList (unescape doubleEscape? value), after)
  | cs =>
      let line := cs.takeWhile (· != '\n')
      some (String.ofList (Text.dropEndWhile Text.isBlank (beforeComment line)),
        cs.dropWhile (· != '\n'))

/-- The value after an equals sign.  Blanks and a comment are no value. -/
def scanAssigned (cs : List Char) : Scan String :=
  match skipInline cs with
  | '#' :: rest =>
      if (cs.head?.map Text.isInlineBlank).getD false then some ("", '#' :: rest)
      else scanValue ('#' :: rest)
  | cs => scanValue cs

/-- Skip a comment. -/
def skipComment (cs : List Char) : List Char :=
  match skipInline cs with
  | '#' :: rest => rest.dropWhile (· != '\n')
  | _ => cs

/-- The end of a line, after any blanks. -/
def scanLineEnd (cs : List Char) : Scan Unit :=
  match skipInline cs with
  | [] => some ((), [])
  | '\n' :: rest => some ((), rest)
  | _ => none

/-- The rest of the text after the current line. -/
def skipLine (cs : List Char) : List Char := (cs.dropWhile (· != '\n')).drop 1

/-- The end of a statement: an entry with the rest of the text. -/
def finish (name : Option String) (value : Option String) (cs : List Char) :
    Option Entry × List Char :=
  let cs := skipComment cs
  match scanLineEnd cs with
  | some (_, rest) => (name.map fun name => ⟨name, value⟩, rest)
  | none => (none, skipLine cs)

/-- One statement, at the beginning of a text that is not blank.  The answer is its entry, if it has
one, and the rest of the text. -/
def scanStatement (cs : List Char) : Option Entry × List Char :=
  let cs := skipExport cs
  match scanName cs with
  | none => (none, skipLine cs)
  | some (name, cs) =>
      match skipInline cs with
      | '=' :: rest =>
          match scanAssigned rest with
          | some (value, cs) => finish name (some value) cs
          | none => (none, skipLine (skipInline rest))
      | cs => finish name none cs

/-- The statements of a text.  Each of them ends after its beginning, so there are no more rounds
than characters. -/
def scanStatements : (rounds : Nat) -> List Char -> List Entry
  | 0, _ => []
  | rounds + 1, cs =>
      match cs.dropWhile Text.isBlank with
      | [] => []
      | cs =>
          let (entry, rest) := scanStatement cs
          entry.toList ++ scanStatements rounds rest

/-- The entries of an environment file, in the order in which they are written. -/
def entries (text : String) : List Entry :=
  let cs := normalize (dropMark text.toList)
  scanStatements cs.length cs

end EnvFile
end ObjectWatch
