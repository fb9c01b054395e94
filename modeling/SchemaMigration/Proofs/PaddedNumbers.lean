import SchemaMigration.Number.Power
import SchemaMigration.Text.Digits

/-!
# The order of padded numbers

Numbers of the same width are compared as texts by their first different digit, and that is how
numbers compare:

> `padded_append`: two padded numbers, one after the other, are one padded number.
> `padded_inj`, `padded_lt_iff`: padded numbers are equal, and compare, as the numbers do.
-/

namespace SchemaMigration.Text

open Number

/-! ## Single digits -/

theorem digitChar_inj {d e : Nat} (hd : d < 10) (he : e < 10) :
    digitChar d = digitChar e ↔ d = e := by
  refine ⟨fun h => ?_, congrArg digitChar⟩
  rw [← digitValue_digitChar hd, h, digitValue_digitChar he]

theorem digitChar_lt_iff {d e : Nat} (hd : d < 10) (he : e < 10) :
    digitChar d < digitChar e ↔ d < e := by
  have h : ∀ d, d < 10 → ∀ e, e < 10 → (digitChar d < digitChar e ↔ d < e) := by decide
  exact h d hd e he

/-! ## Numbers of a width -/

/-- Two padded numbers, one after the other, are one padded number. -/
theorem padded_append (w v m : Nat) {n : Nat} (h : n < tenTo v) :
    padded w m ++ padded v n = padded (w + v) (m * tenTo v + n) := by
  induction v generalizing n with
  | zero =>
    obtain rfl : n = 0 := Nat.lt_one_iff.1 h
    show padded w m ++ [] = padded w (m * 1 + 0)
    rw [List.append_nil, Nat.mul_one, Nat.add_zero]
  | succ v ih =>
    have hpow : m * tenTo (v + 1) = 10 * (m * tenTo v) := by
      rw [tenTo_succ, Nat.mul_left_comm]
    rw [tenTo_succ] at h
    have hdiv : (m * tenTo (v + 1) + n) / 10 = m * tenTo v + n / 10 := by omega
    have hmod : (m * tenTo (v + 1) + n) % 10 = n % 10 := by omega
    show padded w m ++ (padded v (n / 10) ++ [digitChar (n % 10)]) =
      padded (w + v) ((m * tenTo (v + 1) + n) / 10) ++
        [digitChar ((m * tenTo (v + 1) + n) % 10)]
    rw [hdiv, hmod, ← ih (by omega), List.append_assoc]

theorem padded_inj {w m n : Nat} (hm : m < tenTo w) (hn : n < tenTo w) :
    padded w m = padded w n ↔ m = n := by
  induction w generalizing m n with
  | zero =>
    obtain rfl : m = 0 := Nat.lt_one_iff.1 hm
    obtain rfl : n = 0 := Nat.lt_one_iff.1 hn
    exact iff_of_true rfl rfl
  | succ w ih =>
    rw [tenTo_succ] at hm hn
    have hrest := ih (show m / 10 < tenTo w by omega) (show n / 10 < tenTo w by omega)
    have hlast := digitChar_inj (show m % 10 < 10 by omega) (show n % 10 < 10 by omega)
    show padded w (m / 10) ++ [digitChar (m % 10)] = padded w (n / 10) ++ [digitChar (n % 10)] ↔ _
    rw [List.append_singleton_inj, hrest, hlast]
    omega

/-- Of texts with the same length, the last character decides only if all others are equal. -/
theorem concat_lt_concat_iff {s t : List Char} {c d : Char} (h : s.length = t.length) :
    s ++ [c] < t ++ [d] ↔ s < t ∨ s = t ∧ c < d := by
  induction s generalizing t with
  | nil =>
    obtain rfl : t = [] := List.length_eq_zero_iff.1 h.symm
    show [c] < [d] ↔ _
    rw [List.cons_lt_cons_iff]
    simp
  | cons a s ih =>
    cases t with
    | nil => cases h
    | cons b t =>
      rw [List.cons_append, List.cons_append, List.cons_lt_cons_iff, List.cons_lt_cons_iff,
        ih (Nat.succ.inj h), List.cons.injEq]
      simp only [and_or_left, or_assoc, and_assoc]

/-- Padded numbers compare as the numbers do. -/
theorem padded_lt_iff {w m n : Nat} (hm : m < tenTo w) (hn : n < tenTo w) :
    padded w m < padded w n ↔ m < n := by
  induction w generalizing m n with
  | zero =>
    obtain rfl : m = 0 := Nat.lt_one_iff.1 hm
    obtain rfl : n = 0 := Nat.lt_one_iff.1 hn
    exact iff_of_false (List.lt_irrefl _) (Nat.lt_irrefl 0)
  | succ w ih =>
    rw [tenTo_succ] at hm hn
    have hm' : m / 10 < tenTo w := by omega
    have hn' : n / 10 < tenTo w := by omega
    have hlast := digitChar_lt_iff (show m % 10 < 10 by omega) (show n % 10 < 10 by omega)
    have hlength : (padded w (m / 10)).length = (padded w (n / 10)).length := by
      rw [length_padded, length_padded]
    show padded w (m / 10) ++ [digitChar (m % 10)] < padded w (n / 10) ++ [digitChar (n % 10)] ↔ _
    rw [concat_lt_concat_iff hlength, ih hm' hn', padded_inj hm' hn', hlast]
    omega

end SchemaMigration.Text
