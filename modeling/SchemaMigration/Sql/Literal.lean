import SchemaMigration.Json.Value
import SchemaMigration.Text.Join

/-!
# Literals in SQL

The literals of `insert-into` (§4.2 of the driftwood specification): a JSON value as a MySQL
literal. Strings are double-quoted with backslash escapes; arrays and objects are stored as their
JSON text.
-/

namespace SchemaMigration.Sql

open Json

/-- A character inside a double-quoted literal. -/
def escapeChar (c : Char) : List Char :=
  if c = '"' then ['\\', '"']
  else if c = '\\' then ['\\', '\\']
  else if c = '\n' then ['\\', 'n']
  else if c = '\r' then ['\\', 'r']
  else if c = '\t' then ['\\', 't']
  else if c = '\x00' then ['\\', '0']
  else if c = '\x1a' then ['\\', 'Z']
  else [c]

/-- A text as a double-quoted literal. -/
def quoted (s : List Char) : List Char := '"' :: s.flatMap escapeChar ++ ['"']

/-- The characters of a literal. -/
def literalChars : Value → List Char
  | .null => ['N', 'U', 'L', 'L']
  | .bool true => ['T', 'R', 'U', 'E']
  | .bool false => ['F', 'A', 'L', 'S', 'E']
  | .number n => n.chars
  | .string s => quoted s.toList
  | .array items => quoted (Value.array items).chars
  | .object fields => quoted (Value.object fields).chars

/-- A value as a literal. -/
def literal (v : Value) : String := String.ofList (literalChars v)

/-- Literals separated by commas. -/
def literalsChars : List Value → List Char
  | [] => []
  | [v] => literalChars v
  | v :: w :: rest => literalChars v ++ ',' :: literalsChars (w :: rest)

/-- One row of an insert, in brackets. -/
def rowChars (row : List Value) : List Char := '(' :: literalsChars row ++ [')']

/-- The rows of an insert, separated by commas. -/
def rowsChars : List (List Value) → List Char
  | [] => []
  | [r] => rowChars r
  | r :: t :: rest => rowChars r ++ ',' :: rowsChars (t :: rest)

end SchemaMigration.Sql
