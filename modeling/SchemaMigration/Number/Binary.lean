import SchemaMigration.Number.Power

/-!
# Binary floating-point numbers

A finite binary number is a sign, a mantissa and an exponent of two, held exactly. A `Format` says
how many bits a mantissa has and how far the exponent reaches; `Format.round` takes any fraction to
the nearest number of the format, a tie to the even mantissa, and decimals are read through it.

> `roundHalfEven_close`: rounding a quotient is off by at most half a unit.
-/

namespace SchemaMigration.Number

/-- The finite number `mantissa · 2 ^ exponent`, negated if `negative`. Zero keeps its sign. -/
structure Binary where
  negative : Bool
  mantissa : Nat
  exponent : Int
deriving DecidableEq, Repr

/-- A binary format: the bits of a mantissa, and the range of the exponent of its last bit. -/
structure Format where
  precision : Nat
  leastExponent : Int
  greatestExponent : Int

/-- Numbers of 64 bits. -/
def Format.double : Format := ⟨53, -1074, 971⟩

/-- Numbers of 32 bits. -/
def Format.single : Format := ⟨24, -149, 104⟩

/-- What a binary format can hold. -/
inductive Floating
  | finite (x : Binary)
  | infinite (negative : Bool)
  | nan
deriving DecidableEq, Repr

/-! ## Rounding -/

/-- The whole number nearest to `num / den`; of two equally near ones, the even one. -/
def roundHalfEven (num den : Nat) : Nat :=
  let q := num / den
  let r := num % den
  if 2 * r < den then q
  else if den < 2 * r then q + 1
  else if q % 2 = 0 then q else q + 1

theorem roundHalfEven_close (num : Nat) {den : Nat} (h : 0 < den) :
    2 * (roundHalfEven num den * den) ≤ 2 * num + den ∧
      2 * num ≤ 2 * (roundHalfEven num den * den) + den := by
  have hd := Nat.div_add_mod num den
  have hr := Nat.mod_lt num h
  rw [Nat.mul_comm] at hd
  simp only [roundHalfEven]
  split
  · omega
  · split
    · rw [Nat.add_mul]; omega
    · split
      · omega
      · rw [Nat.add_mul]; omega

/-- `2 ^ e` for a positive `e`, otherwise one. -/
def scaleUp (e : Int) : Nat := twoTo e.toNat

/-- The numerator of the magnitude. -/
def Binary.numerator (x : Binary) : Nat := x.mantissa * scaleUp x.exponent

/-- The denominator of the magnitude, a power of two. -/
def Binary.denominator (x : Binary) : Nat := scaleUp (-x.exponent)

namespace Format

/-- The number of the format nearest to the fraction `num / den`, or an infinity if that is out of
reach. The exponent is chosen so that the mantissa fills its bits, unless the fraction is too small
for that. -/
def round (f : Format) (negative : Bool) (num den : Nat) : Floating :=
  if num = 0 then .finite ⟨negative, 0, f.leastExponent⟩
  else
    let guess : Int := num.log2 - den.log2 - f.precision + 1
    let short := num * scaleUp (-guess) < den * scaleUp guess * twoTo (f.precision - 1)
    let e := max (if short then guess - 1 else guess) f.leastExponent
    let m := roundHalfEven (num * scaleUp (-e)) (den * scaleUp e)
    let x : Binary :=
      if m = twoTo f.precision then ⟨negative, twoTo (f.precision - 1), e + 1⟩ else ⟨negative, m, e⟩
    if f.greatestExponent < x.exponent then .infinite negative else .finite x

/-- The number of the format nearest to `digits · 10 ^ scale`, where `digits` has at most `width`
decimal digits. Scales beyond every format are settled without computing the power. -/
def ofDecimal (f : Format) (negative : Bool) (digits width : Nat) (scale : Int) : Floating :=
  if digits = 0 ∨ scale + width < -400 then f.round negative 0 1
  else if 400 < scale then .infinite negative
  else f.round negative (digits * tenTo scale.toNat) (tenTo (-scale).toNat)

/-- The number of the format nearest to a finite one. -/
def narrow (f : Format) (x : Binary) : Floating :=
  f.round x.negative x.numerator x.denominator

/-- The number of the format nearest to a product. -/
def product (f : Format) (x y : Binary) : Floating :=
  f.round (x.negative != y.negative) (x.numerator * y.numerator) (x.denominator * y.denominator)

/-- The number of the format nearest to a quotient. The divisor is not zero. -/
def quotient (f : Format) (x y : Binary) : Floating :=
  f.round (x.negative != y.negative) (x.numerator * y.denominator) (x.denominator * y.numerator)

end Format

/-! ## Whole parts -/

/-- The magnitude rounded to a whole number, a half away from zero. -/
def Binary.roundedMagnitude (x : Binary) : Nat :=
  (2 * x.numerator + x.denominator) / (2 * x.denominator)

end SchemaMigration.Number
