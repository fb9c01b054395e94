/-!
# Placeholders

A statement that `MysqlExecutor` prepares (appendix A of the driftwood specification) can hold
placeholders: question marks, or names after a colon. A name begins with a small letter or an
underscore, and goes on with these and digits. Before a statement is prepared, its names are
replaced by question marks. Nothing counts inside strings, quoted identifiers and comments, except
the comments that servers run as code.

A character that ends a name, or that shows a colon to begin none, can only begin a string or
another name: a comment, an identifier or a question mark there is not noticed.

> `scan_of_plain`: a text without special characters is kept and has no placeholders.
-/

namespace SchemaMigration.Wire

/-- What a scanner of a statement is in. -/
inductive Place
  /-- In none of the others. -/
  | top
  /-- After a colon that can begin a name. -/
  | colon
  /-- In a name. -/
  | name
  /-- In a string between these quotes, after this character. -/
  | string (quote previous : Char)
  /-- In a quoted identifier. -/
  | identifier
  /-- After a hyphen. -/
  | hyphen
  /-- After two hyphens, which a blank makes the beginning of a comment. -/
  | hyphens
  /-- In a comment up to the end of the line. -/
  | lineComment
  /-- After a slash. -/
  | slash
  /-- At the first character of a comment between slashes and stars. -/
  | blockStart
  /-- In such a comment. -/
  | block
  /-- In such a comment, after a star. -/
  | blockStar
deriving DecidableEq, Repr

/-- May the character begin a name? -/
def isNameStart (c : Char) : Bool := c.isLower || c == '_'

/-- May the character stand inside a name? -/
def isNamePart (c : Char) : Bool := isNameStart c || c.isDigit

/-- A blank that makes two hyphens begin a comment. -/
def isHyphenBlank (c : Char) : Bool := c == ' ' || c == '\t' || c == '\r' || c == '\x0c'

namespace Place

/-- The place after a character outside of everything. -/
def afterTop (c : Char) : Place :=
  match c with
  | ':' => colon
  | '/' => slash
  | '-' => hyphen
  | '#' => lineComment
  | '\'' => string c c
  | '"' => string c c
  | '\x60' => identifier
  | _ => top

/-- The place after a character that ended a name, or that showed a colon to begin none. -/
def afterName (c : Char) : Place :=
  match c with
  | ':' => colon
  | '\'' => string c c
  | '"' => string c c
  | _ => top

/-- The place after a character. -/
def step (p : Place) (c : Char) : Place :=
  match p with
  | top => afterTop c
  | colon => if isNameStart c then name else afterName c
  | name => if isNamePart c then name else afterName c
  | string quote previous => if c = quote ∧ previous ≠ '\\' then top else string quote c
  | identifier => if c = '\x60' then top else identifier
  | hyphen => if c = '-' then hyphens else top
  | hyphens => if isHyphenBlank c then lineComment else top
  | lineComment => if c = '\n' then top else lineComment
  | slash => if c = '*' then blockStart else top
  | blockStart => if c = '!' ∨ c = '+' then top else block
  | block => if c = '*' then blockStar else block
  | blockStar => if c = '/' then top else block

end Place

/-- What a scanner found: the statement with question marks for its names, whether it has names, and
whether it has question marks of its own. -/
structure Scanned where
  text : List Char
  hasNames : Bool
  hasMarks : Bool
deriving DecidableEq, Repr

/-- What is written for a character that leads from one place to the next. A colon waits for the
next character, because a name replaces it. -/
def written (p next : Place) (c : Char) : List Char :=
  let waiting := if p = .colon ∧ next ≠ .name then [':'] else []
  let own := if next = .colon then [] else if next = .name then if p = .name then [] else ['?']
    else [c]
  waiting ++ own

/-- Scans a text from a place on. -/
def scanFrom (p : Place) : List Char → Scanned
  | [] => ⟨if p = .colon then [':'] else [], false, false⟩
  | c :: r =>
    let next := p.step c
    let rest := scanFrom next r
    ⟨written p next c ++ rest.text, next = .name || rest.hasNames,
      (p = .top && c == '?') || rest.hasMarks⟩

/-- Scans a statement. -/
def scan (sql : String) : Scanned := scanFrom .top sql.toList

/-- The number of question marks of a text, wherever they stand. -/
def questionMarks (sql : String) : Nat := sql.toList.count '?'

/-- Characters that mean something at the top of a statement. -/
def specialChars : List Char := [':', '/', '-', '#', '\'', '"', '\x60', '?']

/-- A text without special characters is kept, and has no placeholders. -/
theorem scan_of_plain {s : List Char} (h : ∀ c ∈ s, c ∉ specialChars) :
    scanFrom .top s = ⟨s, false, false⟩ := by
  induction s with
  | nil => rfl
  | cons c r ih =>
    have hc := h c List.mem_cons_self
    simp only [specialChars, List.mem_cons, List.not_mem_nil, or_false, not_or] at hc
    have htop : Place.step .top c = .top := by
      simp only [Place.step]
      unfold Place.afterTop
      split <;> simp_all
    rw [scanFrom, htop, ih fun d hd => h d (List.mem_cons_of_mem _ hd)]
    simp [written, hc]

end SchemaMigration.Wire
