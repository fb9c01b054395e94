import SchemaMigration.Text.Digits

/-!
# Identifiers in SQL

A plain identifier needs no quotes. A database name is written between backticks with every backtick
inside doubled, so any name can be written. The specification asks for a plain version table
(appendix D) and for quoting that is safe for the backend (§3).

> `toNat_of_isPlainChar`: the code points of a plain identifier.
-/

namespace SchemaMigration.Sql

/-- Is the character an ASCII letter, a digit or an underscore? -/
def isPlainChar (c : Char) : Bool := c.isAlphanum || c == '_'

/-- Is the name a non-empty run of ASCII letters, digits and underscores? -/
def isPlainIdentifier (name : String) : Bool :=
  !name.toList.isEmpty && name.toList.all isPlainChar

theorem toNat_of_isPlainChar {c : Char} (h : isPlainChar c = true) :
    (48 ≤ c.toNat ∧ c.toNat ≤ 57) ∨ (65 ≤ c.toNat ∧ c.toNat ≤ 90) ∨ c.toNat = 95 ∨
      (97 ≤ c.toNat ∧ c.toNat ≤ 122) := by
  unfold isPlainChar Char.isAlphanum Char.isAlpha Char.isUpper Char.isLower Char.isDigit at h
  simp only [Bool.or_eq_true, Bool.and_eq_true, decide_eq_true_eq, beq_iff_eq, ge_iff_le,
    UInt32.le_iff_toNat_le, Char.toNat_val] at h
  rcases h with ((h | h) | h) | rfl
  · exact .inr (.inl h)
  · exact .inr (.inr (.inr h))
  · exact .inl h
  · exact .inr (.inr (.inl rfl))

theorem isPlainChar_of_mem {name : String} (h : isPlainIdentifier name = true) {c : Char}
    (hc : c ∈ name.toList) : isPlainChar c = true := by
  rw [isPlainIdentifier, Bool.and_eq_true, List.all_eq_true] at h
  exact h.2 c hc

/-- The characters of a quoted name: a backtick is written twice, all else once. -/
def doubleBackticks : List Char → List Char
  | [] => []
  | c :: r => if c = '\x60' then c :: c :: doubleBackticks r else c :: doubleBackticks r

/-- A name between backticks. -/
def quoteIdentifier (name : String) : String :=
  String.ofList ('\x60' :: doubleBackticks name.toList ++ ['\x60'])

end SchemaMigration.Sql
