import SchemaMigration.Toml.Scan.Quoted
import SchemaMigration.Toml.Tree

/-!
# TOML documents

Migration files and settings are TOML documents (appendices D and H of the driftwood specification).
A document is a sequence of lines: comments, key-value pairs and headers. It is read into a table
under construction, together with the path of the last header; the finished table has its keys
sorted.

> `document`: the table of a text, or nothing if the text is not a TOML document.
> `documentValue`: the value of a text. A table can stand for a date or a time.
-/

namespace SchemaMigration.Toml

/-! ## Values -/

/-- The values of an array after its opening bracket, given a scanner of one value. -/
def arrayRest (value : List Char → Scan Node) : (rounds : Nat) → List Char → Scan (List Node)
  | 0, _ => none
  | rounds + 1, s =>
    match skipBreaks s with
    | ']' :: r => some ([], r)
    | s =>
      match value s with
      | none => none
      | some (v, r) =>
        match skipBreaks r with
        | ',' :: r => (arrayRest value rounds r).map fun p => (v :: p.1, p.2)
        | ']' :: r => some ([v], r)
        | _ => none

/-- A key path, an equals sign, and the text after the blanks that follow. -/
def keyAndEquals (s : List Char) : Scan (List String) :=
  match keyPath s with
  | some (path, '=' :: r) => some (path, skipSpace r)
  | _ => none

/-- The pairs of an inline table, put into the table `t`. -/
def inlineRest (value : List Char → Scan Node) :
    (rounds : Nat) → (t : Table) → List Char → Scan Table
  | 0, _, _ => none
  | rounds + 1, t, s =>
    match keyAndEquals s with
    | none => none
    | some (path, r) =>
      match value r with
      | none => none
      | some (v, r) =>
        match t.insertDotted path v with
        | none => none
        | some t =>
          match skipSpace r with
          | ',' :: r => inlineRest value rounds t r
          | '\x7d' :: r => some (t, r)
          | _ => none

/-- An inline table after its opening brace. -/
def inlineTable (value : List Char → Scan Node) (s : List Char) : Scan Node :=
  match skipSpace s with
  | '\x7d' :: r => some (.inline .defined, r)
  | s => (inlineRest value (s.length + 1) .defined s).map fun p => (.inline p.1, p.2)

/-- A value in which arrays and inline tables nest less than `depth` deep. -/
def value : (depth : Nat) → List Char → Scan Node
  | depth, s =>
    match s with
    | '"' :: _ => (string s).map fun p => (.leaf (.string p.1), p.2)
    | '\'' :: _ => (string s).map fun p => (.leaf (.string p.1), p.2)
    | '[' :: r =>
      match depth with
      | 0 => none
      | depth + 1 => (arrayRest (value depth) (r.length + 1) r).map fun p => (.array p.1, p.2)
    | '\x7b' :: r =>
      match depth with
      | 0 => none
      | depth + 1 => inlineTable (value depth) r
    | 't' :: 'r' :: 'u' :: 'e' :: r => some (.leaf (.boolean true), r)
    | 'f' :: 'a' :: 'l' :: 's' :: 'e' :: r => some (.leaf (.boolean false), r)
    | _ => (scalar s).map fun p => (.leaf p.1, p.2)

/-! ## Lines -/

/-- A document under construction: its table, and the path of the last header. -/
structure Draft where
  root : Table
  header : List String

/-- A header after its first bracket. -/
def headerLine (d : Draft) (s : List Char) : Scan Draft :=
  match s with
  | '[' :: r =>
    match keyPath r with
    | some (path, ']' :: ']' :: r) =>
      match lineEnd? r, d.root.append path with
      | some r, some t => some (⟨t, path⟩, r)
      | _, _ => none
    | _ => none
  | r =>
    match keyPath r with
    | some (path, ']' :: r) =>
      match lineEnd? r, d.root.define path with
      | some r, some t => some (⟨t, path⟩, r)
      | _, _ => none
    | _ => none

/-- A key-value pair on a line of its own. -/
def pairLine (d : Draft) (s : List Char) : Scan Draft :=
  match keyAndEquals s with
  | none => none
  | some (path, r) =>
    match value (depthLimit - 1) r with
    | none => none
    | some (v, r) =>
      match lineEnd? r, d.root.insertAt d.header path v with
      | some r, some t => some (⟨t, d.header⟩, r)
      | _, _ => none

/-- One line, or the part of one that is left. -/
def line (d : Draft) (s : List Char) : Scan Draft :=
  match s with
  | '#' :: r => (lineEnd? ('#' :: r)).map fun r => (d, r)
  | '[' :: r => headerLine d r
  | '\n' :: r => some (d, r)
  | '\r' :: r => (newline? ('\r' :: r)).map fun r => (d, r)
  | s => pairLine d s

/-- Reads lines to the end of the text. -/
def linesFrom : (rounds : Nat) → Draft → List Char → Option Table
  | 0, _, _ => none
  | rounds + 1, d, s =>
    match skipSpace s with
    | [] => some d.root
    | s =>
      match line d s with
      | some (d, r) => linesFrom rounds d r
      | none => none

/-- The lines of a document as a table under construction. A byte order mark may come first. -/
def documentTable (s : List Char) : Option Table :=
  let s := if s.head? == some '\ufeff' then s.drop 1 else s
  linesFrom (s.length + 1) ⟨.defined, []⟩ s

/-- The table of a document, if the text is one. -/
def document (s : List Char) : Option Fields := (documentTable s).bind Table.toFields?

/-- The value of a document, if the text is one. -/
def documentValue (s : List Char) : Option Value := (documentTable s).bind Table.toValue?

end SchemaMigration.Toml
