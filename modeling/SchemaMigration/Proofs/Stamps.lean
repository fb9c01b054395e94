import SchemaMigration.Calendar.Civil

/-!
# Stamps of instants

In the years 0 to 9999 a stamp is fourteen ASCII digits: four for the year, and two for each of the
month, the day, the hour, the minute and the second.

> `stampChars_of_year`: the digits of a stamp.
-/

namespace SchemaMigration.Calendar

open Text

/-- A year of four digits has no sign. -/
theorem yearChars_of_nonneg {y : Int} (h0 : 0 ≤ y) (h : y ≤ 9999) :
    yearChars y = padded 4 y.natAbs := by
  have hdigits : y.natAbs < 10000 := by omega
  have hminus : ¬ y < 0 := by omega
  have hplus : ¬ 9999 < y := by omega
  simp only [yearChars, if_pos hdigits, if_neg hminus, if_neg hplus]

namespace Instant

/-- The instant lies in one of the years 0 to 9999. -/
structure HasFourDigitYear (t : Instant) : Prop where
  nonneg : 0 ≤ t.moment.date.year
  le : t.moment.date.year ≤ 9999

theorem stampChars_of_year {t : Instant} (h : t.HasFourDigitYear) :
    t.stampChars = padded 4 t.moment.date.year.natAbs ++ padded 2 t.moment.date.month ++
      padded 2 t.moment.date.day ++ padded 2 t.moment.hour ++ padded 2 t.moment.minute ++
      padded 2 t.moment.second := by
  simp only [stampChars, yearChars_of_nonneg h.nonneg h.le]

theorem length_stampChars {t : Instant} (h : t.HasFourDigitYear) : t.stampChars.length = 14 := by
  simp only [stampChars_of_year h, List.length_append, length_padded]

theorem isDigit_of_mem_stampChars {t : Instant} (h : t.HasFourDigitYear) :
    ∀ c ∈ t.stampChars, c.isDigit = true := by
  intro c hc
  rw [stampChars_of_year h] at hc
  simp only [List.mem_append] at hc
  rcases hc with ((((hc | hc) | hc) | hc) | hc) | hc <;> exact isDigit_of_mem_padded _ _ c hc

end Instant

end SchemaMigration.Calendar
