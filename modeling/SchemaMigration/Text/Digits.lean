/-!
# Decimal digits

Whole numbers as decimal text: without leading zeros (`digits`), and cut or padded to a width
(`padded`).

> `digits_ne_nil`, `isDigit_of_mem_digits`: a number has digits, and nothing but digits.
> `length_padded`, `isDigit_of_mem_padded`: a padded number has exactly its width in digits.
-/

namespace SchemaMigration.Text

/-- The character of the digit `d`, for `d < 10`. -/
def digitChar (d : Nat) : Char := Char.ofNat (48 + d)

/-- The value of a decimal digit character. -/
def digitValue (c : Char) : Nat := c.toNat - 48

theorem isDigit_digitChar {d : Nat} (h : d < 10) : (digitChar d).isDigit = true := by
  have : ∀ e, e < 10 → (digitChar e).isDigit = true := by decide
  exact this d h

theorem digitValue_digitChar {d : Nat} (h : d < 10) : digitValue (digitChar d) = d := by
  have : ∀ e, e < 10 → digitValue (digitChar e) = e := by decide
  exact this d h

/-- The decimal digits of a number, without leading zeros; zero is one digit. -/
def digits (n : Nat) : List Char :=
  if n < 10 then [digitChar n] else digits (n / 10) ++ [digitChar (n % 10)]

/-- The last `width` decimal digits of a number, with leading zeros. -/
def padded : (width n : Nat) → List Char
  | 0, _ => []
  | width + 1, n => padded width (n / 10) ++ [digitChar (n % 10)]

/-- The decimal digits of a number, with leading zeros up to the width; a longer number is not
cut. -/
def filled (width n : Nat) : List Char :=
  let ds := digits n
  List.replicate (width - ds.length) '0' ++ ds

/-- A whole number: a minus sign for the negative ones, then the digits. -/
def integer (i : Int) : List Char :=
  if i < 0 then '-' :: digits i.natAbs else digits i.natAbs

/-- The number that a run of decimal digits writes. -/
def ofDigits (ds : List Char) : Nat := ds.foldl (fun n c => 10 * n + digitValue c) 0

/-! ## Their characters -/

theorem digits_ne_nil (n : Nat) : digits n ≠ [] := by
  rw [digits]
  split <;> simp

theorem isDigit_of_mem_digits (n : Nat) : ∀ c ∈ digits n, c.isDigit = true := by
  rw [digits]
  split
  · next h =>
    intro c hc
    rw [List.mem_singleton.1 hc]
    exact isDigit_digitChar h
  · intro c hc
    rcases List.mem_append.1 hc with h | h
    · exact isDigit_of_mem_digits (n / 10) c h
    · rw [List.mem_singleton.1 h]
      exact isDigit_digitChar (Nat.mod_lt _ (by decide))
termination_by n

theorem length_padded (width n : Nat) : (padded width n).length = width := by
  induction width generalizing n with
  | zero => rfl
  | succ w ih => simp [padded, ih]

theorem isDigit_of_mem_padded (width n : Nat) : ∀ c ∈ padded width n, c.isDigit = true := by
  induction width generalizing n with
  | zero => intro c hc; cases hc
  | succ w ih =>
    intro c hc
    rcases List.mem_append.1 hc with h | h
    · exact ih _ c h
    · rw [List.mem_singleton.1 h]
      exact isDigit_digitChar (Nat.mod_lt _ (by decide))

theorem ofDigits_digits (n : Nat) : ofDigits (digits n) = n := by
  rw [digits]
  split
  · next h => simp [ofDigits, digitValue_digitChar h]
  · have ih := ofDigits_digits (n / 10)
    simp only [ofDigits, List.foldl_append, List.foldl_cons, List.foldl_nil] at ih ⊢
    rw [ih, digitValue_digitChar (Nat.mod_lt _ (by decide))]
    omega
termination_by n

end SchemaMigration.Text
