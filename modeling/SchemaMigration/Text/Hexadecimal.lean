/-!
# Hexadecimal digits

Whole numbers in base sixteen. Digits are written in lower case and read in both.

> `hexValue?_hexDigit`: a digit that was written is read back.
> `ofHexDigits_hexDigits`: so is a number.
-/

namespace SchemaMigration.Text

/-- The value of a hexadecimal digit. -/
def hexValue? (c : Char) : Option Nat :=
  if c.isDigit then some (c.toNat - 48)
  else if 'a' ≤ c ∧ c ≤ 'f' then some (c.toNat - 87)
  else if 'A' ≤ c ∧ c ≤ 'F' then some (c.toNat - 55)
  else none

/-- The digit of a value below sixteen. -/
def hexDigit (d : Nat) : Char := if d < 10 then Char.ofNat (48 + d) else Char.ofNat (87 + d)

/-- The hexadecimal digits of a number, without leading zeros; zero is one digit. -/
def hexDigits (n : Nat) : List Char :=
  if n < 16 then [hexDigit n] else hexDigits (n / 16) ++ [hexDigit (n % 16)]

/-- The number that a run of hexadecimal digits writes. -/
def ofHexDigits (ds : List Char) : Nat := ds.foldl (fun n c => 16 * n + (hexValue? c).getD 0) 0

theorem hexValue?_hexDigit {d : Nat} (h : d < 16) : hexValue? (hexDigit d) = some d := by
  have : ∀ e, e < 16 → hexValue? (hexDigit e) = some e := by decide
  exact this d h

theorem ofHexDigits_hexDigits (n : Nat) : ofHexDigits (hexDigits n) = n := by
  rw [hexDigits]
  split
  · next h => simp [ofHexDigits, hexValue?_hexDigit h]
  · have ih := ofHexDigits_hexDigits (n / 16)
    simp only [ofHexDigits, List.foldl_append, List.foldl_cons, List.foldl_nil] at ih ⊢
    rw [ih, hexValue?_hexDigit (Nat.mod_lt _ (by decide)), Option.getD_some]
    omega
termination_by n

end SchemaMigration.Text
