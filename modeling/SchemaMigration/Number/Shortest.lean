import SchemaMigration.Number.Binary
import SchemaMigration.Text.Digits

/-!
# Shortest decimals

The decimal text of a binary number has the fewest digits that still read back to it, and of those
the nearest. The numbers that read back to `m · 2 ^ e` fill the interval between the halfway points
to its two neighbours; the ends belong to it when `m` is even. For one digit, two digits and so on,
only the two points of that decimal grid around the number itself can be the nearest in the
interval, so these are tried, in exact arithmetic.
-/

namespace SchemaMigration.Number

open Text

/-- The number `significand · 10 ^ exponent`. -/
structure Decimal where
  significand : Nat
  exponent : Int
deriving DecidableEq, Repr

/-- Which of two equally near candidates is taken. -/
inductive Tie
  | even
  | up
deriving DecidableEq, Repr

/-- The interval of numbers that read back, as numerators over one denominator: its two ends, the
number itself between them, and whether the ends belong to it. -/
structure Interval where
  low : Nat
  middle : Nat
  high : Nat
  den : Nat
  closed : Bool

/-- The interval of a nonzero number of a format, in quarters of its last bit. The lower neighbour
of a power of two is half as far away, unless the exponent cannot go lower. -/
def Format.interval (f : Format) (x : Binary) : Interval :=
  let near := x.mantissa = twoTo (f.precision - 1) ∧ f.leastExponent < x.exponent
  let up := scaleUp (x.exponent - 2)
  { low := (4 * x.mantissa - if near then 1 else 2) * up
    middle := 4 * x.mantissa * up
    high := (4 * x.mantissa + 2) * up
    den := scaleUp (2 - x.exponent)
    closed := x.mantissa % 2 = 0 }

/-- Does `c · 10 ^ k` lie in the interval? -/
def Interval.contains (i : Interval) (c : Nat) (k : Int) : Bool :=
  let point := c * tenTo k.toNat * i.den
  let scale := tenTo (-k).toNat
  if i.closed then i.low * scale ≤ point && point ≤ i.high * scale
  else i.low * scale < point && point < i.high * scale

/-- The candidate on the grid of `10 ^ k` that lies in the interval, the nearer one if both do. -/
def Interval.candidate (i : Interval) (tie : Tie) (k : Int) : Option Nat :=
  let num := i.middle * tenTo (-k).toNat
  let den := i.den * tenTo k.toNat
  let c := num / den
  let r := num % den
  match i.contains c k, i.contains (c + 1) k with
  | false, false => none
  | true, false => some c
  | false, true => some (c + 1)
  | true, true =>
    if 2 * r < den then some c
    else if den < 2 * r then some (c + 1)
    else match tie with
      | .up => some (c + 1)
      | .even => some (if c % 2 = 0 then c else c + 1)

/-- The place of the decimal point: the magnitude is less than `10` to this power, and not less than
`10` to the power before it. -/
def Interval.magnitude (i : Interval) : Int :=
  if i.den ≤ i.middle then (digits (i.middle / i.den)).length
  else 1 - ((digits ((i.den - 1) / i.middle)).length : Int)

/-- Tries the grids from `k` downwards; the last one is taken as it stands. -/
def Interval.search (i : Interval) (tie : Tie) : (grids : Nat) → (k : Int) → Decimal
  | 0, k => ⟨i.middle * tenTo (-k).toNat / (i.den * tenTo k.toNat), k⟩
  | grids + 1, k =>
    match i.candidate tie k with
    | some c => ⟨c, k⟩
    | none => i.search tie grids (k - 1)

/-- The shortest decimal that reads back to the number, the nearest of these. Seventeen digits are
enough for every format in use. -/
def Format.shortest (f : Format) (tie : Tie) (x : Binary) : Decimal :=
  if x.mantissa = 0 then ⟨0, 0⟩
  else
    let i := f.interval x
    i.search tie 17 (i.magnitude - 1)

end SchemaMigration.Number
