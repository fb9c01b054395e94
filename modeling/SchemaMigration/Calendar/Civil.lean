import SchemaMigration.Text.Digits

/-!
# The civil calendar

Days and instants as dates of the proleptic Gregorian calendar in UTC, without leap seconds. New
migration files and reports are stamped with them (appendices G and H of the driftwood
specification). Years are counted from March, so that the leap day is the last day of its year: four
hundred years have 146097 days, the first three of its centuries 36524, and four years 1461.

> `Instant.stamp`: the fourteen digits that make a version. `Instant.rfc3339`: the text of a time.
-/

namespace SchemaMigration.Calendar

open Text

/-- A day of the civil calendar. -/
structure Date where
  year : Int
  month : Nat
  day : Nat
deriving DecidableEq, Repr

/-- Days from the first of March of year zero to the first of January 1970. -/
def epochDay : Int := 719468

/-- The date that is `n` days after the first of January 1970. -/
def Date.ofDays (n : Int) : Date :=
  let d := n + epochDay
  let era := d / 146097
  let inEra := (d % 146097).toNat
  let century := min 3 (inEra / 36524)
  let inCentury := inEra - 36524 * century
  let quad := inCentury / 1461
  let inQuad := inCentury % 1461
  let year := min 3 (inQuad / 365)
  let inYear := inQuad - 365 * year
  let march : Int := 400 * era + (100 * century + 4 * quad + year : Nat)
  let m := (5 * inYear + 2) / 153
  let day := inYear - (153 * m + 2) / 5 + 1
  if m < 10 then ⟨march, m + 3, day⟩ else ⟨march + 1, m - 9, day⟩

/-- Is the year a leap year? -/
def isLeapYear (year : Nat) : Bool :=
  year % 4 == 0 && (year % 100 != 0 || year % 400 == 0)

/-- The number of days of a month. -/
def daysInMonth (year month : Nat) : Nat :=
  if month = 2 then if isLeapYear year then 29 else 28
  else if month = 4 ∨ month = 6 ∨ month = 9 ∨ month = 11 then 30
  else 31

/-- A year: four digits, and a sign if it is outside of the years 0 to 9999. -/
def yearChars (y : Int) : List Char :=
  let ds := if y.natAbs < 10000 then padded 4 y.natAbs else digits y.natAbs
  if y < 0 then '-' :: ds else if 9999 < y then '+' :: ds else ds

/-- An instant, in milliseconds since the beginning of 1970. -/
structure Instant where
  millis : Int
deriving DecidableEq, Repr

/-- The parts of an instant. -/
structure Moment where
  date : Date
  hour : Nat
  minute : Nat
  second : Nat
  millis : Nat
deriving DecidableEq, Repr

namespace Instant

/-- The milliseconds of a day. -/
def dayMillis : Int := 86400000

/-- The date and the time of an instant. -/
def moment (t : Instant) : Moment :=
  let inDay := (t.millis % dayMillis).toNat
  { date := .ofDays (t.millis / dayMillis)
    hour := inDay / 3600000
    minute := inDay / 60000 % 60
    second := inDay / 1000 % 60
    millis := inDay % 1000 }

/-- The earliest instant that has a text: the beginning of the year -262143. -/
def earliest : Int := -8334601228800000

/-- The latest instant that has a text: the end of the year 262142. -/
def latest : Int := 8210266876799999

/-- The text of an instant with its offset from UTC; the milliseconds are left out when there are
none. Instants out of range have no text. -/
def rfc3339 (t : Instant) : Option String :=
  if t.millis < earliest || latest < t.millis then none
  else
    let m := t.moment
    some (String.ofList (yearChars m.date.year ++ '-' :: padded 2 m.date.month ++
      '-' :: padded 2 m.date.day ++ 'T' :: padded 2 m.hour ++ ':' :: padded 2 m.minute ++
      ':' :: padded 2 m.second ++ (if m.millis = 0 then [] else '.' :: padded 3 m.millis) ++
      ['+', '0', '0', ':', '0', '0']))

/-- The characters of a version: year, month, day, hour, minute and second. -/
def stampChars (t : Instant) : List Char :=
  let m := t.moment
  yearChars m.date.year ++ padded 2 m.date.month ++ padded 2 m.date.day ++ padded 2 m.hour ++
    padded 2 m.minute ++ padded 2 m.second

/-- The version of a migration that is written at this instant. -/
def stamp (t : Instant) : String := String.ofList t.stampChars

end Instant

end SchemaMigration.Calendar
