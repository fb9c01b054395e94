import SchemaMigration.Calendar.Civil
import SchemaMigration.Json.Value

/-!
# TOML values

The values of a TOML document, and the JSON values that they stand for in commands: dates and times
become their text, and numbers that JSON cannot write become null. The conversion is the one of
appendix H of the driftwood specification.
-/

namespace SchemaMigration.Toml

open Number Text

/-- A time of day, to the nanosecond. -/
structure Time where
  hour : Nat
  minute : Nat
  second : Nat
  nanosecond : Nat
deriving DecidableEq, Repr

/-- An offset from UTC: UTC itself, or minutes to the east. -/
inductive Offset
  | utc
  | minutes (east : Int)
deriving DecidableEq, Repr

/-- A date, a time, or both, the latter perhaps with an offset. -/
structure Datetime where
  date : Option Calendar.Date
  time : Option Time
  offset : Option Offset
deriving DecidableEq, Repr

/-- A TOML value. The fields of a table are sorted by key. -/
inductive Value
  | string (value : String)
  | integer (value : Int)
  | float (value : Floating)
  | boolean (value : Bool)
  | datetime (value : Datetime)
  | array (items : List Value)
  | table (fields : List (String × Value))
deriving Repr, Inhabited

/-- The fields of a table. -/
abbrev Fields := List (String × Value)

/-- The value of the first field with this key. -/
def Fields.find? (fields : Fields) (key : String) : Option Value :=
  Entries.get? fields key

/-- The key that a table has instead of others when it stands for a date or a time. -/
def datetimeKey : String := "$__toml_private_datetime"

/-! ## The text of a date or a time -/

/-- The text without the zeros at its end. -/
def dropEndZeros (s : List Char) : List Char := (s.reverse.dropWhile (· == '0')).reverse

/-- A date: year, month and day. -/
def dateChars (d : Calendar.Date) : List Char :=
  padded 4 d.year.toNat ++ '-' :: padded 2 d.month ++ '-' :: padded 2 d.day

/-- A time: hour, minute and second, and the fraction without its closing zeros. -/
def Time.chars (t : Time) : List Char :=
  padded 2 t.hour ++ ':' :: padded 2 t.minute ++ ':' :: padded 2 t.second ++
    if t.nanosecond = 0 then [] else '.' :: dropEndZeros (padded 9 t.nanosecond)

/-- An offset: a letter for UTC, otherwise a sign, hours and minutes. -/
def Offset.chars : Offset → List Char
  | .utc => ['Z']
  | .minutes m =>
    (if m < 0 then '-' else '+') :: padded 2 (m.natAbs / 60) ++ ':' :: padded 2 (m.natAbs % 60)

/-- A date and a time with the letter between them, and the offset. -/
def Datetime.chars (d : Datetime) : List Char :=
  (match d.date with | some date => dateChars date | none => []) ++
    (match d.date, d.time with
      | some _, some time => 'T' :: time.chars
      | none, some time => time.chars
      | _, none => []) ++
    match d.offset with | some offset => offset.chars | none => []

/-- The text of a date or a time. -/
def Datetime.text (d : Datetime) : String := String.ofList d.chars

/-! ## As JSON -/

mutual

/-- The JSON value that a TOML value stands for. -/
def Value.toJson : Value → Json.Value
  | .string s => .string s
  | .integer i => .number (.whole i)
  | .float (.finite x) => .number (.binary x)
  | .float _ => .null
  | .boolean b => .bool b
  | .datetime d => .string d.text
  | .array items => .array (itemsToJson items)
  | .table fields => .object (fieldsToJson fields)

/-- The JSON values of the items of an array. -/
def itemsToJson : List Value → List Json.Value
  | [] => []
  | v :: vs => v.toJson :: itemsToJson vs

/-- The JSON values of the fields of a table. -/
def fieldsToJson : List (String × Value) → List (String × Json.Value)
  | [] => []
  | (k, v) :: rest => (k, v.toJson) :: fieldsToJson rest

end

end SchemaMigration.Toml
