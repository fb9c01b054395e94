import SchemaMigration.Number.Layout
import SchemaMigration.Text.Utf8

/-!
# Cells of a result

What `MysqlExecutor` makes of a row (appendix A of the driftwood specification). A cell of a result
has one of the types that a server sends. Its text is what a query answers with: numbers in decimal
and never with an exponent, dates and times as quoted literals, bytes as lenient UTF-8. A null has
no text.
-/

namespace SchemaMigration.Wire

open Number Text

/-- A date and a time of day, to the microsecond. -/
structure CellDate where
  year : Nat
  month : Nat
  day : Nat
  hour : Nat
  minute : Nat
  second : Nat
  micro : Nat
deriving DecidableEq, Repr

/-- A span of time, to the microsecond. -/
structure CellTime where
  negative : Bool
  days : Nat
  hours : Nat
  minutes : Nat
  seconds : Nat
  micro : Nat
deriving DecidableEq, Repr

/-- A cell of a result. -/
inductive Cell
  | null
  | bytes (value : List UInt8)
  | integer (value : Int)
  | single (value : Floating)
  | double (value : Floating)
  | datetime (value : CellDate)
  | time (value : CellTime)
deriving Repr

/-- The fraction of a second; nothing if it is zero. -/
def microChars (micro : Nat) : List Char := if micro = 0 then [] else '.' :: filled 6 micro

/-- A date, and the time of day unless it is midnight. -/
def CellDate.chars (d : CellDate) : List Char :=
  filled 4 d.year ++ '-' :: filled 2 d.month ++ '-' :: filled 2 d.day ++
    if d.hour = 0 ∧ d.minute = 0 ∧ d.second = 0 ∧ d.micro = 0 then []
    else ' ' :: filled 2 d.hour ++ ':' :: filled 2 d.minute ++ ':' :: filled 2 d.second ++
      microChars d.micro

/-- A span of time in hours, minutes and seconds. -/
def CellTime.chars (t : CellTime) : List Char :=
  (if t.negative then ['-'] else []) ++ filled 3 (24 * t.days + t.hours) ++
    ':' :: filled 2 t.minutes ++ ':' :: filled 2 t.seconds ++ microChars t.micro

/-- The text of a cell. -/
def Cell.text? : Cell → Option String
  | .null => none
  | .bytes value => some (lenient value)
  | .integer value => some (String.ofList (Text.integer value))
  | .single value => some (String.ofList (Layout.plain.floating .single "NaN" value))
  | .double value => some (String.ofList (Layout.plain.floating .double "NaN" value))
  | .datetime value => some (String.ofList ('\'' :: value.chars ++ ['\'']))
  | .time value => some (String.ofList ('\'' :: value.chars ++ ['\'']))

end SchemaMigration.Wire
