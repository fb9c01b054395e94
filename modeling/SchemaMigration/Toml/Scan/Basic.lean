/-!
# Scanning a TOML document

A scanner takes the text that is left, and gives what it read and the text after it, or nothing if
the text is not of its kind. The simplest ones skip blanks, comments and line ends.

A loop in a scanner carries a bound on its rounds. Each round takes at least one character, so the
length of the text is bound enough.
-/

namespace SchemaMigration.Toml

/-- What a scanner gives. -/
abbrev Scan (α : Type) := Option (α × List Char)

/-! ## Blanks, comments and line ends -/

/-- A space or a tab. -/
def isSpace (c : Char) : Bool := c == ' ' || c == '\t'

/-- A character that may stand in a comment: a tab, or anything but a control character of ASCII. -/
def isCommentChar (c : Char) : Bool :=
  c == '\t' || (decide (0x20 ≤ c.toNat) && c != '\x7f')

/-- The text after the blanks. -/
def skipSpace (s : List Char) : List Char := s.dropWhile isSpace

/-- The text after a line end. -/
def newline? : List Char → Option (List Char)
  | '\n' :: r => some r
  | '\r' :: '\n' :: r => some r
  | _ => none

/-- The text after the rest of a line: blanks, perhaps a comment, and a line end or the end of the
text. -/
def lineEnd? (s : List Char) : Option (List Char) :=
  let s := skipSpace s
  let s := if s.head? == some '#' then s.dropWhile isCommentChar else s
  if s.isEmpty then some [] else newline? s

/-- The text after blanks, line ends and comments; `inComment` while a comment is open. -/
def skipBreaksFrom (inComment : Bool) : List Char → List Char
  | [] => []
  | c :: r =>
    if inComment && isCommentChar c then skipBreaksFrom true r
    else if isSpace c || c == '\n' then skipBreaksFrom false r
    else if c == '\r' && r.head? == some '\n' then skipBreaksFrom false r
    else if c == '#' then skipBreaksFrom true r
    else c :: r

/-- The text after blanks, line ends and comments. -/
def skipBreaks (s : List Char) : List Char := skipBreaksFrom false s

end SchemaMigration.Toml
