/-!
# Powers and the limits of words

Powers of two and ten, and how far whole numbers of 64 bits reach.
-/

namespace SchemaMigration.Number

/-- Two to the `k`. -/
def twoTo (k : Nat) : Nat := Nat.pow 2 k

/-- Ten to the `k`. -/
def tenTo (k : Nat) : Nat := Nat.pow 10 k

theorem tenTo_succ (k : Nat) : tenTo (k + 1) = 10 * tenTo k := Nat.mul_comm _ _

/-- The numbers of 64 bits without a sign are below this one. -/
def wordLimit : Nat := 18446744073709551616

/-- The numbers of 64 bits with a sign are below this one, and not below its negation. -/
def signedLimit : Nat := 9223372036854775808

/-- Do 64 bits with a sign hold the number? -/
def fitsSigned (i : Int) : Bool := decide (-(signedLimit : Int) ≤ i) && decide (i < signedLimit)

end SchemaMigration.Number
