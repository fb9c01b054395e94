import SchemaMigration.Toml.Scan.Number

/-!
# Dates and times

A date, a time of day, or both with an offset. Their first digits and the mark after them decide
that the text is one, and then it has to be a proper one.

A document may hold a date or a time as it is, and a string may hold its text. The same scanner
reads both; a string is less strict about hours and offsets.

> `scalar`: a date, a time or a number of a document.
> `Datetime.ofText?`: the date or the time that a whole string writes.
-/

namespace SchemaMigration.Toml

open Text Number

/-- Exactly `n` ASCII digits. -/
def fixedDigits (n : Nat) (s : List Char) : Scan Nat :=
  let ds := s.take n
  if ds.length = n ∧ ds.all Char.isDigit then some (ofDigits ds, s.drop n) else none

/-- A number of two digits up to `most`. -/
def twoDigits (most : Nat) (s : List Char) : Scan Nat :=
  match fixedDigits 2 s with
  | some (n, r) => if n ≤ most then some (n, r) else none
  | none => none

/-- What a scanner of something optional found: it was not there, it was there and is wrong, or it
was read. -/
inductive Found (α : Type)
  | absent
  | wrong
  | read (value : α) (rest : List Char)

/-- How far the hours of a time and the two parts of an offset may go. -/
structure ClockRange where
  lastHour : Nat
  lastOffsetHour : Nat
  lastOffsetMinute : Nat

/-- A clock that goes to 23:59, as documents have it. -/
def ClockRange.strict : ClockRange := ⟨23, 23, 59⟩

/-- A clock that has an hour 24, with any offset of two digits each. -/
def ClockRange.wide : ClockRange := ⟨24, 99, 99⟩

/-- The minutes of a whole day, which no offset exceeds. -/
def minutesOfDay : Nat := 1440

/-- A date. Four digits and a hyphen make the text a date, and what follows has to fit. -/
def date (s : List Char) : Found Calendar.Date :=
  match fixedDigits 4 s with
  | some (year, '-' :: r) =>
    match twoDigits 12 r with
    | some (month, '-' :: r) =>
      match twoDigits 31 r with
      | some (day, r) =>
        if 1 ≤ month ∧ 1 ≤ day ∧ day ≤ Calendar.daysInMonth year month then
          .read ⟨year, month, day⟩ r
        else .wrong
      | none => .wrong
    | _ => .wrong
  | _ => .absent

/-- The nanoseconds that a run of digits after the point writes; digits after the ninth are cut. -/
def nanoseconds (ds : List Char) : Nat :=
  let ds := ds.take 9
  ofDigits ds * tenTo (9 - ds.length)

/-- A time of day. Two digits and a colon make the text a time, and what follows has to fit. -/
def timeOfDay (range : ClockRange) (s : List Char) : Found Time :=
  match twoDigits range.lastHour s with
  | some (hour, ':' :: r) =>
    match twoDigits 59 r with
    | some (minute, ':' :: r) =>
      match twoDigits 60 r with
      | some (second, r) =>
        match r with
        | '.' :: f =>
          let ds := f.takeWhile Char.isDigit
          if ds.isEmpty then .read ⟨hour, minute, second, 0⟩ r
          else .read ⟨hour, minute, second, nanoseconds ds⟩ (f.drop ds.length)
        | _ => .read ⟨hour, minute, second, 0⟩ r
      | none => .wrong
    | _ => .wrong
  | _ => .absent

/-- An offset from UTC. A sign makes the text an offset, and what follows has to fit. -/
def offset (range : ClockRange) (s : List Char) : Found Offset :=
  let signed (sign : Int) (r : List Char) : Found Offset :=
    match twoDigits range.lastOffsetHour r with
    | some (hours, ':' :: r) =>
      match twoDigits range.lastOffsetMinute r with
      | some (minutes, r) =>
        let total := 60 * hours + minutes
        if total ≤ minutesOfDay then .read (.minutes (sign * (total : Int))) r else .wrong
      | none => .wrong
    | _ => .wrong
  match s with
  | 'Z' :: r => .read .utc r
  | 'z' :: r => .read .utc r
  | '+' :: r => signed 1 r
  | '-' :: r => signed (-1) r
  | _ => .absent

/-- The time after a date, with its offset; the date alone if no time follows the letter or the
blank. -/
def afterDate (range : ClockRange) (d : Calendar.Date) (s : List Char) : Found Datetime :=
  match s with
  | c :: r =>
    if c = 'T' ∨ c = 't' ∨ c = ' ' then
      match timeOfDay range r with
      | .absent => .read ⟨some d, none, none⟩ s
      | .wrong => .wrong
      | .read t r =>
        match offset range r with
        | .absent => .read ⟨some d, some t, none⟩ r
        | .wrong => .wrong
        | .read o r => .read ⟨some d, some t, some o⟩ r
    else .read ⟨some d, none, none⟩ s
  | [] => .read ⟨some d, none, none⟩ []

/-- A date, a time or both. -/
def datetime (range : ClockRange) (s : List Char) : Found Datetime :=
  match date s with
  | .read d r => afterDate range d r
  | .wrong => .wrong
  | .absent =>
    match timeOfDay range s with
    | .read t r => .read ⟨none, some t, none⟩ r
    | .wrong => .wrong
    | .absent => .absent

/-- A date, a time or a number. -/
def scalar (s : List Char) : Scan Value :=
  match datetime .strict s with
  | .read d r => some (.datetime d, r)
  | .wrong => none
  | .absent => number s

/-- The date or the time that a string writes, and nothing else. -/
def Datetime.ofText? (s : String) : Option Datetime :=
  match datetime .wide s.toList with
  | .read d [] => some d
  | _ => none

end SchemaMigration.Toml
