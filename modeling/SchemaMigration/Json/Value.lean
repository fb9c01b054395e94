import SchemaMigration.Entries
import SchemaMigration.Number.Layout
import SchemaMigration.Text.Hexadecimal

/-!
# JSON values

The dynamic values that commands are written in (appendix E of the driftwood specification), and
their compact text. An object is a list of fields; a reader builds it with `object`, which sorts the
fields by key and lets the last of two equal keys win, so the order in which a text lists its keys
is never seen.
-/

namespace SchemaMigration.Json

open Number Text

/-- A whole number, or a finite binary number of 64 bits. -/
inductive Numeral
  | whole (value : Int)
  | binary (value : Binary)
deriving DecidableEq, Repr

/-- A JSON value. -/
inductive Value
  | null
  | bool (value : Bool)
  | number (value : Numeral)
  | string (value : String)
  | array (items : List Value)
  | object (fields : List (String × Value))
deriving Repr, Inhabited

/-- The fields of a JSON object. -/
abbrev Fields := List (String × Value)

/-- The value of the first field with this key. -/
def Fields.find? (fields : Fields) (key : String) : Option Value :=
  Entries.get? fields key

/-- Sets a key of a list that is sorted by key. -/
def Fields.insert (fields : Fields) (key : String) (value : Value) : Fields :=
  match fields with
  | [] => [(key, value)]
  | (k, v) :: rest =>
    if key < k then (key, value) :: (k, v) :: rest
    else if key = k then (key, value) :: rest
    else (k, v) :: Fields.insert rest key value

/-- The object with these fields, sorted by key; of equal keys the last one wins. -/
def object (fields : Fields) : Value :=
  .object (fields.foldl (fun acc f => Fields.insert acc f.1 f.2) [])

/-! ## Text -/

/-- A character inside a JSON string. Only the quote, the backslash and the characters below a space
are written as escapes. -/
def escapeChar (c : Char) : List Char :=
  if c = '"' then ['\\', '"']
  else if c = '\\' then ['\\', '\\']
  else if c = '\x08' then ['\\', 'b']
  else if c = '\t' then ['\\', 't']
  else if c = '\n' then ['\\', 'n']
  else if c = '\x0c' then ['\\', 'f']
  else if c = '\r' then ['\\', 'r']
  else if c.toNat < 32 then ['\\', 'u', '0', '0', hexDigit (c.toNat / 16), hexDigit (c.toNat % 16)]
  else [c]

/-- A JSON string with its quotes. -/
def quoted (s : List Char) : List Char := '"' :: s.flatMap escapeChar ++ ['"']

/-- The text of a number. -/
def Numeral.chars : Numeral → List Char
  | .whole i => Text.integer i
  | .binary x => Layout.json.finite .double x

mutual

/-- The compact text of a value: no spaces, fields in their order. -/
def Value.chars : Value → List Char
  | .null => ['n', 'u', 'l', 'l']
  | .bool true => ['t', 'r', 'u', 'e']
  | .bool false => ['f', 'a', 'l', 's', 'e']
  | .number n => n.chars
  | .string s => quoted s.toList
  | .array items => '[' :: itemsChars items ++ [']']
  | .object fields => '\x7b' :: fieldsChars fields ++ ['\x7d']

/-- Values separated by commas. -/
def itemsChars : List Value → List Char
  | [] => []
  | [v] => v.chars
  | v :: w :: rest => v.chars ++ ',' :: itemsChars (w :: rest)

/-- Fields separated by commas, each a quoted key, a colon and its value. -/
def fieldsChars : List (String × Value) → List Char
  | [] => []
  | [(k, v)] => quoted k.toList ++ ':' :: v.chars
  | (k, v) :: f :: rest => quoted k.toList ++ ':' :: v.chars ++ ',' :: fieldsChars (f :: rest)

end

/-- The compact text of a value. -/
def Value.text (v : Value) : String := String.ofList v.chars

/-- The text of a number. -/
def Numeral.text (n : Numeral) : String := String.ofList n.chars

/-- A number's text is not empty. -/
theorem Numeral.chars_ne_nil (n : Numeral) : n.chars ≠ [] := by
  cases n with
  | whole i =>
    simp only [chars, Text.integer]
    split
    · simp
    · exact Text.digits_ne_nil _
  | binary x => exact Layout.finite_ne_nil _ _ x

/-- A number's text uses only digits, signs, the point and the letter `e`. -/
theorem Numeral.isNumeric_of_mem_chars (n : Numeral) :
    ∀ c ∈ n.chars, Layout.isNumeric c = true := by
  cases n with
  | whole i =>
    intro c hc
    simp only [chars, Text.integer] at hc
    split at hc
    · rcases List.mem_cons.1 hc with rfl | h
      · decide
      · exact Layout.isNumeric_of_mem_digits h
    · exact Layout.isNumeric_of_mem_digits hc
  | binary x => exact Layout.finite_numeric _ _ x

end SchemaMigration.Json
