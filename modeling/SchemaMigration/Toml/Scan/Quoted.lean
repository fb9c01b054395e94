import SchemaMigration.Text.Hexadecimal
import SchemaMigration.Toml.Scan.Basic

/-!
# Strings and keys

A string stands between double quotes, where a backslash starts an escape, or between single quotes,
where nothing is special. Triple quotes let it go over several lines. A key is a string on one line,
or bare; a path of keys has points between them.
-/

namespace SchemaMigration.Toml

open Text

/-! ## Strings -/

/-- Exactly `n` hexadecimal digits, after those that make up `value`. -/
def fixedHexDigits : (n : Nat) → (value : Nat) → List Char → Scan Nat
  | 0, value, s => some (value, s)
  | n + 1, value, c :: r =>
    match hexValue? c with
    | some d => fixedHexDigits n (16 * value + d) r
    | none => none
  | _ + 1, _, [] => none

/-- A code point of `n` hexadecimal digits that is a character. -/
def codePoint (n : Nat) (s : List Char) : Scan Char :=
  match fixedHexDigits n 0 s with
  | some (v, r) => if v.isValidChar then some (Char.ofNat v, r) else none
  | none => none

/-- What follows a backslash. -/
def escape : List Char → Scan Char
  | [] => none
  | c :: r =>
    if c = 'b' then some ('\x08', r)
    else if c = 't' then some ('\t', r)
    else if c = 'n' then some ('\n', r)
    else if c = 'f' then some ('\x0c', r)
    else if c = 'r' then some ('\r', r)
    else if c = '"' then some ('"', r)
    else if c = '\\' then some ('\\', r)
    else if c = 'u' then codePoint 4 r
    else if c = 'U' then codePoint 8 r
    else none

/-- The rest of a basic string, up to its quote. -/
def basicRest : (rounds : Nat) → List Char → Scan (List Char)
  | 0, _ => none
  | _ + 1, [] => none
  | rounds + 1, c :: r =>
    if c = '"' then some ([], r)
    else if c = '\\' then
      match escape r with
      | some (d, r) => (basicRest rounds r).map fun p => (d :: p.1, p.2)
      | none => none
    else if isCommentChar c then (basicRest rounds r).map fun p => (c :: p.1, p.2)
    else none

/-- The rest of a literal string, up to its quote. -/
def literalRest (s : List Char) : Scan (List Char) :=
  let body := s.takeWhile fun c => c != '\'' && isCommentChar c
  match s.drop body.length with
  | '\'' :: r => some (body, r)
  | _ => none

/-- The text after blanks and line ends. -/
def skipLines : List Char → List Char
  | [] => []
  | c :: r =>
    if isSpace c || c == '\n' then skipLines r
    else if c == '\r' && r.head? == some '\n' then skipLines r
    else c :: r

/-- The text after a backslash that ends a line, without the blanks and line ends after it. -/
def continuation? (s : List Char) : Option (List Char) :=
  (newline? (skipSpace s)).map skipLines

/-- The rest of a string of several lines between triple quotes `q`. One or two quotes may stand
anywhere in it, also at its end. Only between double quotes is a backslash special. -/
def multilineRest (q : Char) : (rounds : Nat) → List Char → Scan (List Char)
  | 0, _ => none
  | _ + 1, [] => none
  | rounds + 1, c :: r =>
    if c = q then
      let run := ((c :: r).takeWhile (· == q)).length
      if 3 ≤ run then
        let extra := min 2 (run - 3)
        some (List.replicate extra q, (c :: r).drop (extra + 3))
      else (multilineRest q rounds r).map fun p => (c :: p.1, p.2)
    else if c = '\\' ∧ q = '"' then
      match continuation? r with
      | some r => multilineRest q rounds r
      | none =>
        match escape r with
        | some (d, r) => (multilineRest q rounds r).map fun p => (d :: p.1, p.2)
        | none => none
    else if isCommentChar c then (multilineRest q rounds r).map fun p => (c :: p.1, p.2)
    else
      match newline? (c :: r) with
      | some r => (multilineRest q rounds r).map fun p => ('\n' :: p.1, p.2)
      | none => none

/-- A string of several lines, after its opening quotes. A line end right there is left out. -/
def multiline (q : Char) (s : List Char) : Scan (List Char) :=
  let s := (newline? s).getD s
  multilineRest q (s.length + 1) s

/-- The characters of a string of any kind. -/
def stringChars : List Char → Scan (List Char)
  | '"' :: '"' :: '"' :: r => multiline '"' r
  | '"' :: r => basicRest (r.length + 1) r
  | '\'' :: '\'' :: '\'' :: r => multiline '\'' r
  | '\'' :: r => literalRest r
  | _ => none

/-- A string of any kind. -/
def string (s : List Char) : Scan String :=
  (stringChars s).map fun p => (String.ofList p.1, p.2)

/-! ## Keys -/

/-- A character of a bare key. -/
def isBareChar (c : Char) : Bool := c.isAlphanum || c == '_' || c == '-'

/-- One key: bare, or a string on one line. -/
def simpleKey (s : List Char) : Scan String :=
  match s with
  | '"' :: r => (basicRest (r.length + 1) r).map fun p => (String.ofList p.1, p.2)
  | '\'' :: r => (literalRest r).map fun p => (String.ofList p.1, p.2)
  | _ =>
    let bare := s.takeWhile isBareChar
    if bare.isEmpty then none else some (String.ofList bare, s.drop bare.length)

/-- Keys with points between them and blanks around them. -/
def keysFrom : (rounds : Nat) → List Char → Scan (List String)
  | 0, _ => none
  | rounds + 1, s =>
    match simpleKey (skipSpace s) with
    | none => none
    | some (key, r) =>
      match skipSpace r with
      | '.' :: r => (keysFrom rounds r).map fun p => (key :: p.1, p.2)
      | r => some ([key], r)

/-- The depth that a path of keys, or a nest of values, does not reach. -/
def depthLimit : Nat := 80

/-- A path of keys, which is not too long. -/
def keyPath (s : List Char) : Scan (List String) :=
  match keysFrom (s.length + 1) s with
  | some (path, r) => if path.length < depthLimit then some (path, r) else none
  | none => none

end SchemaMigration.Toml
