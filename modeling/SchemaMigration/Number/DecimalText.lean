import SchemaMigration.Number.Binary
import SchemaMigration.Text.Digits

/-!
# Texts of decimal numbers

A decimal number is written with digits before and after a point, and an exponent of ten. It can be
read in two ways. At once, it is the binary number nearest to it. In steps, its digits are read as a
whole number as far as a word holds them, this is rounded, and then multiplied or divided by a
rounded power of ten; every step rounds once, so the last bits can differ.

> `DecimalText.nearest`: a decimal number read at once.
> `DecimalText.stepwise`: a decimal number read in steps.
> `takeDigits_lt`: the whole number of the steps fits a word.
-/

namespace SchemaMigration.Number

open Text

/-- A decimal number as it is written. -/
structure DecimalText where
  negative : Bool
  /-- The digits before the point. -/
  ahead : List Char
  /-- The digits after the point. -/
  behind : List Char
  exponent : Int
  /-- Has it a point or an exponent? -/
  broken : Bool
deriving DecidableEq, Repr

namespace DecimalText

/-- The exponent of ten: a sign and digits. -/
def exponentOf : List Char → Int
  | '-' :: ds => -(ofDigits ds : Int)
  | '+' :: ds => ofDigits ds
  | ds => ofDigits ds

/-- Takes a text apart that is known to write a decimal number. -/
def ofChars (s : List Char) : DecimalText :=
  let negative := s.head? == some '-'
  let s := if negative || s.head? == some '+' then s.drop 1 else s
  let isMark (c : Char) : Bool := c == 'e' || c == 'E'
  let mantissa := s.takeWhile fun c => !isMark c
  let tail := (s.dropWhile fun c => !isMark c).drop 1
  { negative
    ahead := mantissa.takeWhile (· != '.')
    behind := (mantissa.dropWhile (· != '.')).drop 1
    exponent := exponentOf tail
    broken := s.any fun c => c == '.' || isMark c }

/-! ## At once -/

/-- The binary number of 64 bits nearest to a decimal number. -/
def nearest (d : DecimalText) : Floating :=
  let digits := d.ahead ++ d.behind
  Format.double.ofDecimal d.negative (ofDigits digits) digits.length (d.exponent - d.behind.length)

/-! ## In steps -/

/-- Appends digits to a number as long as a word holds it. Gives the number and the digits that are
left. -/
def takeDigits (n : Nat) : List Char → Nat × List Char
  | [] => (n, [])
  | c :: r =>
    let m := 10 * n + digitValue c
    if m < wordLimit then takeDigits m r else (n, c :: r)

theorem takeDigits_lt {n : Nat} (h : n < wordLimit) (s : List Char) :
    (takeDigits n s).1 < wordLimit := by
  induction s generalizing n with
  | nil => exact h
  | cons c r ih =>
    rw [takeDigits]
    split
    · next hm => exact ih hm
    · exact h

/-- The greatest power of ten that is used in one step. -/
def greatestStep : Nat := 308

/-- A whole number rounded to 64 bits. -/
def rounded (n : Nat) : Floating := Format.double.round false n 1

/-- A number times a power of ten. -/
def scaledUp (x : Binary) (power : Nat) : Floating :=
  if x.mantissa = 0 then .finite x
  else if greatestStep < power then .infinite x.negative
  else
    match rounded (tenTo power) with
    | .finite p => Format.double.product x p
    | _ => .infinite x.negative

/-- A number divided by a power of ten, in more than one step if it is a great one. -/
def scaledDown (x : Binary) (power : Nat) : Floating :=
  if x.mantissa = 0 then .finite x
  else
    match rounded (tenTo (min power greatestStep)) with
    | .finite p =>
      match Format.double.quotient x p with
      | .finite y =>
        if greatestStep < power then scaledDown y (power - greatestStep) else .finite y
      | y => y
    | _ => .nan
termination_by power
decreasing_by
  unfold greatestStep at *
  omega

/-- The number that its steps lead to. Digits before the point that a word does not hold count as
zeros, and those after it do not count. -/
def stepwise (d : DecimalText) : Floating :=
  let (high, left) := takeDigits 0 d.ahead
  let (digits, unread) := takeDigits high d.behind
  let scale := d.exponent + left.length - (d.behind.length - unread.length : Nat)
  match Format.double.round d.negative digits 1 with
  | .finite x => if 0 ≤ scale then scaledUp x scale.toNat else scaledDown x scale.natAbs
  | x => x

end DecimalText

end SchemaMigration.Number
