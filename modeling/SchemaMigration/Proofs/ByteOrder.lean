import SchemaMigration.Version.Basic

/-!
# The order of bytes

Texts are compared character by character, each character by its code point. In UTF-8 the greater of
two characters has the greater byte where their bytes first differ, and the bytes of one are never
the beginning of the bytes of the other. So texts compare as their bytes do:

> `encodeChar_lt`: two characters compare as their bytes, whatever follows them.
> `bytes_lt_iff`, `bytes_le_iff`: two texts compare as their bytes.
-/

namespace SchemaMigration.Text

/-- The bytes of a text in UTF-8. -/
def bytes (s : String) : List UInt8 := s.toUTF8.data.toList

theorem bytes_eq_flatMap (s : String) : bytes s = s.toList.flatMap String.utf8EncodeChar := by
  rw [bytes, String.toUTF8_eq_toByteArray, ← String.utf8Encode_toList, List.utf8Encode,
    List.data_toByteArray]

theorem ofNat_cons_lt_iff {m n : Nat} (hm : m < 256) (hn : n < 256) {us vs : List UInt8} :
    UInt8.ofNat m :: us < UInt8.ofNat n :: vs ↔ m < n ∨ m = n ∧ us < vs := by
  rw [List.cons_lt_cons_iff, UInt8.lt_iff_toNat_lt, ← UInt8.toNat_inj, UInt8.toNat_ofNat_of_lt' hm,
    UInt8.toNat_ofNat_of_lt' hn]

/-- A number is put together from its last three digits of six bits and the rest. -/
theorem eq_of_digits (m : Nat) :
    m = 262144 * (m / 262144) + 4096 * (m / 4096 % 64) + 64 * (m / 64 % 64) + m % 64 := by omega

/-- Two characters compare as their bytes, whatever follows them. -/
theorem encodeChar_lt {c d : Char} (h : c < d) (us vs : List UInt8) :
    String.utf8EncodeChar c ++ us < String.utf8EncodeChar d ++ vs := by
  have hlt : c.val.toNat < d.val.toNat := h
  have hd : d.val.toNat < 0x110000 := by
    rcases d.valid with h | h <;> omega
  simp only [String.utf8EncodeChar]
  generalize c.val.toNat = m at *
  generalize d.val.toNat = n at *
  -- one case for each two lengths; with different lengths the first bytes differ
  repeat' split
  all_goals simp (disch := omega) only [List.cons_append, ofNat_cons_lt_iff]
  case isFalse.isFalse.isFalse.isFalse.isFalse.isFalse =>
    -- four bytes each: of two numbers, the greater one has the greater digit where they differ
    have hm := eq_of_digits m
    have hn := eq_of_digits n
    have hfirst : m / 262144 % 8 = m / 262144 ∧ n / 262144 % 8 = n / 262144 := by omega
    rw [hfirst.1, hfirst.2]
    have hmdigits : m / 4096 % 64 < 64 ∧ m / 64 % 64 < 64 ∧ m % 64 < 64 := by omega
    have hndigits : n / 4096 % 64 < 64 ∧ n / 64 % 64 < 64 ∧ n % 64 < 64 := by omega
    generalize m / 262144 = m₃, m / 4096 % 64 = m₂, m / 64 % 64 = m₁, m % 64 = m₀ at *
    generalize n / 262144 = n₃, n / 4096 % 64 = n₂, n / 64 % 64 = n₁, n % 64 = n₀ at *
    omega
  all_goals omega

theorem flatMap_encodeChar_lt {cs ds : List Char} (h : cs < ds) :
    cs.flatMap String.utf8EncodeChar < ds.flatMap String.utf8EncodeChar := by
  induction cs generalizing ds with
  | nil =>
    cases ds with
    | nil => exact absurd h (List.lt_irrefl [])
    | cons d ds =>
      obtain ⟨b, bs, hd⟩ := List.exists_cons_of_ne_nil (String.utf8EncodeChar_ne_nil (c := d))
      rw [List.flatMap_cons, hd]
      exact List.nil_lt_cons b _
  | cons c cs ih =>
    cases ds with
    | nil => exact absurd h (List.not_lt_nil _)
    | cons d ds =>
      rw [List.flatMap_cons, List.flatMap_cons]
      rcases List.cons_lt_cons_iff.1 h with hcd | ⟨rfl, hrest⟩
      · exact encodeChar_lt hcd _ _
      · exact List.append_left_lt (ih hrest)

/-- Two texts compare as their bytes. -/
theorem bytes_lt_iff {s t : String} : bytes s < bytes t ↔ s < t := by
  have hlt : ∀ {s t : String}, s < t → bytes s < bytes t := by
    intro s t h
    rw [bytes_eq_flatMap, bytes_eq_flatMap]
    exact flatMap_encodeChar_lt h
  refine ⟨fun h => ?_, hlt⟩
  rcases Std.lt_trichotomy s t with hst | rfl | hts
  · exact hst
  · exact absurd h (List.lt_irrefl _)
  · exact absurd h (List.lt_asymm (hlt hts))

theorem bytes_le_iff {s t : String} : bytes s ≤ bytes t ↔ s ≤ t := not_congr bytes_lt_iff

end SchemaMigration.Text
