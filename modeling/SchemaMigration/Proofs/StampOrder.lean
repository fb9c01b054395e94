import SchemaMigration.Proofs.ByteOrder
import SchemaMigration.Proofs.Gregorian
import SchemaMigration.Proofs.NewMigration
import SchemaMigration.Proofs.PaddedNumbers

/-!
# The order of stamps

The fields of a stamp, one after the other, are the digits of one number. Its higher digits are the
date, which ascends with the days, and its lower digits the time of the day, which ascends with the
seconds:

> `secondNumber_strictMono`: the number of a later second is the greater one.
> `stampChars_eq_padded`: a stamp is the number of its second.

So in the years 0 to 9999 stamps compare as seconds do:

> `stamp_lt_iff`, `stamp_inj`: the order of stamps.
> `stamps_ascend`: the same by bytes, together with the digits of a stamp and the file name that
> carries it.
-/

namespace SchemaMigration

namespace Calendar

/-! ## Seconds as numbers -/

/-- The time of a second of a day as a number that is written hour, minute, second. -/
def clockNumber (s : Nat) : Nat := 10000 * (s / 3600) + 100 * (s / 60 % 60) + s % 60

theorem clockNumber_lt_succ (s : Nat) : clockNumber s < clockNumber (s + 1) := by
  unfold clockNumber
  omega

theorem clockNumber_lt {s : Nat} (h : s < 86400) : clockNumber s < 240000 := by
  unfold clockNumber
  omega

/-- The second that is `s` seconds after the beginning of 1970, as a number that is written year,
month, day, hour, minute, second. -/
def secondNumber (s : Int) : Int :=
  1000000 * (Date.ofDays (s / 86400)).number + clockNumber (s % 86400).toNat

/-- The number of a later second is the greater one. -/
theorem secondNumber_strictMono : StrictMono secondNumber := by
  refine strictMono_int_of_lt_succ fun s => ?_
  unfold secondNumber
  by_cases hlast : s % 86400 + 1 < 86400
  · have hday : (s + 1) / 86400 = s / 86400 := by omega
    have htime : ((s + 1) % 86400).toNat = (s % 86400).toNat + 1 := by omega
    have hclock := clockNumber_lt_succ (s % 86400).toNat
    rw [hday, htime]
    omega
  · -- the last second of a day: the clock starts again, and the date goes up
    have hday : (s + 1) / 86400 = s / 86400 + 1 := by omega
    have hdate := Date.number_ofDays_strictMono (show s / 86400 < s / 86400 + 1 by omega)
    have hclock : clockNumber (s % 86400).toNat < 240000 := clockNumber_lt (by omega)
    rw [hday]
    simp only at hdate
    omega

namespace Instant

/-! ## Stamps as numbers -/

/-- The second that the instant lies in, counted from the beginning of 1970. -/
def seconds (t : Instant) : Int := t.millis / 1000

variable {t u : Instant}

/-- The date and the time of an instant are those of its second. -/
theorem moment_eq (t : Instant) :
    t.moment.date = .ofDays (t.seconds / 86400) ∧
    10000 * t.moment.hour + 100 * t.moment.minute + t.moment.second =
      clockNumber (t.seconds % 86400).toNat := by
  have hday : t.millis / dayMillis = t.seconds / 86400 := by
    unfold dayMillis seconds
    omega
  have htime : (t.millis % dayMillis).toNat / 1000 = (t.seconds % 86400).toNat := by
    unfold dayMillis seconds
    omega
  refine ⟨congrArg Date.ofDays hday, ?_⟩
  rw [← htime]
  unfold moment clockNumber
  simp only
  omega

/-- The parts of a stamp fit into their fields. -/
theorem moment_bounds (t : Instant) :
    t.moment.date.InRange ∧ t.moment.hour < 100 ∧ t.moment.minute < 100 ∧
      t.moment.second < 100 := by
  have hpos : t.millis % dayMillis < dayMillis := Int.emod_lt_of_pos _ (by decide)
  have hday : (t.millis % dayMillis).toNat < 86400000 := by
    unfold dayMillis at hpos ⊢
    omega
  refine ⟨Date.inRange_ofDays _, ?_, ?_, ?_⟩
  · show (t.millis % dayMillis).toNat / 3600000 < 100
    omega
  · show (t.millis % dayMillis).toNat / 60000 % 60 < 100
    omega
  · show (t.millis % dayMillis).toNat / 1000 % 60 < 100
    omega

theorem secondNumber_bounds (h : t.HasFourDigitYear) :
    0 ≤ secondNumber t.seconds ∧ secondNumber t.seconds < 100000000000000 := by
  obtain ⟨hdate, htime⟩ := t.moment_eq
  obtain ⟨hrange, hhour, hminute, hsecond⟩ := t.moment_bounds
  have hyear := h.nonneg
  have hyear' := h.le
  have hmonth := hrange.month_le
  have hday := hrange.day_le
  unfold secondNumber
  rw [← hdate, ← htime]
  unfold Date.number
  omega

/-- A stamp is the number of its second. -/
theorem stampChars_eq_padded (h : t.HasFourDigitYear) :
    t.stampChars = Text.padded 14 (secondNumber t.seconds).toNat := by
  obtain ⟨hdate, htime⟩ := t.moment_eq
  obtain ⟨hrange, hhour, hminute, hsecond⟩ := t.moment_bounds
  have hyear := h.nonneg
  have hmonth := hrange.month_le
  have hday := hrange.day_le
  have htwo : Number.tenTo 2 = 100 := rfl
  rw [stampChars_of_year h, Text.padded_append, Text.padded_append, Text.padded_append,
    Text.padded_append, Text.padded_append, htwo]
  · congr 1
    unfold secondNumber
    rw [← hdate, ← htime]
    unfold Date.number
    omega
  all_goals rw [htwo]; omega

/-! ## The order of stamps -/

theorem stamp_lt_iff (ht : t.HasFourDigitYear) (hu : u.HasFourDigitYear) :
    t.stamp < u.stamp ↔ t.seconds < u.seconds := by
  have hfit : Number.tenTo 14 = 100000000000000 := rfl
  have htbounds := secondNumber_bounds ht
  have hubounds := secondNumber_bounds hu
  unfold stamp
  rw [String.lt_iff, String.toList_ofList, String.toList_ofList, stampChars_eq_padded ht,
    stampChars_eq_padded hu, Text.padded_lt_iff (by omega) (by omega),
    ← secondNumber_strictMono.lt_iff_lt]
  omega

theorem stamp_le_iff (ht : t.HasFourDigitYear) (hu : u.HasFourDigitYear) :
    t.stamp ≤ u.stamp ↔ t.seconds ≤ u.seconds := by
  rw [← Std.not_lt, stamp_lt_iff hu ht, Int.not_lt]

theorem stamp_inj (ht : t.HasFourDigitYear) (hu : u.HasFourDigitYear) :
    t.stamp = u.stamp ↔ t.seconds = u.seconds := by
  have htu := stamp_le_iff ht hu
  have hut := stamp_le_iff hu ht
  constructor
  · intro h
    have hle := htu.1 (Std.le_of_eq h)
    have hge := hut.1 (Std.le_of_eq h.symm)
    omega
  · intro h
    exact String.le_antisymm (htu.2 (by omega)) (hut.2 (by omega))

theorem seconds_le_of_le (h : t.millis ≤ u.millis) : t.seconds ≤ u.seconds := by
  unfold seconds
  omega

end Instant

end Calendar

open Calendar in
/-- In the years 0 to 9999 a stamp is fourteen ASCII digits. The stamp of a later instant is not
below that of an earlier one by the order of bytes, and the two are the same exactly when both
instants lie in the same second. The file name that a stamp makes with a plain name is read as these
two parts. -/
theorem stamps_ascend {t u : Instant} {name : String} (ht : t.HasFourDigitYear)
    (hu : u.HasFourDigitYear) (hname : Sql.isPlainIdentifier name = true) :
    (t.stamp.toList.length = 14 ∧ ∀ c ∈ t.stamp.toList, c.isDigit = true) ∧
    (t.millis ≤ u.millis → Text.bytes t.stamp ≤ Text.bytes u.stamp) ∧
    (t.stamp = u.stamp ↔ t.millis / 1000 = u.millis / 1000) ∧
    FileName.ofString? (newFileName name t).text = some ⟨t.stamp, name⟩ := by
  have hchars : t.stamp.toList = t.stampChars := String.toList_ofList
  refine ⟨?_, fun h => ?_, Instant.stamp_inj ht hu, ?_⟩
  · rw [hchars]
    exact ⟨Instant.length_stampChars ht, Instant.isDigit_of_mem_stampChars ht⟩
  · exact Text.bytes_le_iff.2 ((Instant.stamp_le_iff ht hu).2 (Instant.seconds_le_of_le h))
  · exact FileName.ofString?_eq_some_iff.2 ⟨newFileName_isFormed hname ht, rfl⟩

open Calendar in
/-- The last millisecond of a leap day and the first one of the next month. -/
theorem stamps_aroundLeapDay :
    let t : Instant := ⟨1709251199999⟩
    let u : Instant := ⟨1709251200000⟩
    (t.HasFourDigitYear ∧ u.HasFourDigitYear ∧ Sql.isPlainIdentifier "add_1" = true) ∧
    t.stamp = "20240229235959" ∧ u.stamp = "20240301000000" ∧
    Text.bytes t.stamp ≤ Text.bytes u.stamp ∧ t.stamp ≠ u.stamp ∧
    FileName.ofString? "20240229235959_add_1.toml" = some ⟨"20240229235959", "add_1"⟩ := by
  intro t u
  have ht : t.HasFourDigitYear := ⟨by decide, by decide⟩
  have hu : u.HasFourDigitYear := ⟨by decide, by decide⟩
  have hname : Sql.isPlainIdentifier "add_1" = true := by decide
  have hstamp : t.stamp = "20240229235959" := by decide +kernel
  obtain ⟨-, hle, hsame, hread⟩ := stamps_ascend ht hu hname
  have htext : (newFileName "add_1" t).text = "20240229235959_add_1.toml" := by
    show t.stamp ++ "_" ++ "add_1" ++ String.ofList FileName.extension = _
    rw [hstamp]
    decide
  rw [htext, hstamp] at hread
  refine ⟨⟨ht, hu, hname⟩, hstamp, by decide +kernel, hle (by decide), ?_, hread⟩
  rw [Ne, hsame]
  decide

end SchemaMigration
