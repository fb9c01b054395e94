import SchemaMigration.Json.Value
import SchemaMigration.Number.DecimalText

/-!
# Number tokens

A number token without a point and without an exponent is a whole number if 64 bits hold it, signed
or unsigned; every other token is the binary number that reading it in steps leads to.

> `Numeral.ofToken`: the number of a token.
-/

namespace SchemaMigration.Json

open Number Text

/-- The number that a token writes; none if it is too great. -/
def Numeral.ofToken (s : List Char) : Option Numeral :=
  let d := DecimalText.ofChars s
  let n := ofDigits d.ahead
  if !d.broken && !d.negative && decide (n < wordLimit) then some (.whole n)
  else if !d.broken && d.negative && decide (0 < n) && decide (n ≤ signedLimit) then
    some (.whole (-(n : Int)))
  else
    match d.stepwise with
    | .finite x => some (.binary x)
    | _ => none

end SchemaMigration.Json
