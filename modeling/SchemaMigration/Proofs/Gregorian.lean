import Mathlib.Order.SuccPred.Archimedean
import Mathlib.Algebra.Order.Ring.Int
import Mathlib.Data.Int.ConditionallyCompleteOrder
import Mathlib.Tactic.IntervalCases
import SchemaMigration.Calendar.Civil

/-!
# The Gregorian calendar

The date of a day is computed by a division into spans of four hundred, a hundred, four and one
years, each of which begins in March. That is the calendar in which a year has twelve months with
their usual lengths, and a leap day every four years but not in three of four centuries:

> `Date.ofDays_succ`: each day is followed by the next day of the calendar.

So dates ascend with their days, also as numbers that are written year, month, day:

> `Date.number_ofDays_strictMono`: a later day has the greater date.
-/

namespace SchemaMigration.Calendar

/-! ## One day after the other -/

/-- The next day: of the same month, or else the first one of the next month or year. -/
def Date.next (d : Date) : Date :=
  if d.day < daysInMonth d.year.natAbs d.month then { d with day := d.day + 1 }
  else if d.month < 12 then ⟨d.year, d.month + 1, 1⟩
  else ⟨d.year + 1, 1, 1⟩

/-- The years before year zero are leap years by the same rule. -/
theorem isLeapYear_natAbs_iff (y : Int) :
    isLeapYear y.natAbs = true ↔ y % 4 = 0 ∧ (y % 100 ≠ 0 ∨ y % 400 = 0) := by
  simp only [isLeapYear, Bool.and_eq_true, Bool.or_eq_true, beq_iff_eq, bne_iff_ne]
  omega

/-! ## Years from March -/

/-- Days from the first of March of year zero to the first of March of year `y`. -/
def marchStart (y : Int) : Int := 365 * y + y / 4 - y / 100 + y / 400

/-- Days from the first of March to the first of the month that comes `m` months later. -/
def monthStart (m : Nat) : Nat := (153 * m + 2) / 5

/-- From March to March there is a leap day if the second year is a leap year. -/
theorem marchStart_succ (y : Int) :
    marchStart (y + 1) = marchStart y + if isLeapYear (y + 1).natAbs then 366 else 365 := by
  by_cases h : isLeapYear (y + 1).natAbs = true
  · have hleap := (isLeapYear_natAbs_iff (y + 1)).1 h
    rw [if_pos h]
    unfold marchStart
    omega
  · have hleap := mt (isLeapYear_natAbs_iff (y + 1)).2 h
    rw [if_neg h]
    unfold marchStart
    omega

theorem marchStart_strictMono : StrictMono marchStart := by
  refine strictMono_int_of_lt_succ fun y => ?_
  rw [marchStart_succ]
  split <;> omega

theorem monthStart_lt_succ (m : Nat) :
    monthStart m < monthStart (m + 1) ∧ monthStart (m + 1) ≤ monthStart m + 31 := by
  unfold monthStart
  omega

theorem monthStart_mono {m n : Nat} (h : m ≤ n) : monthStart m ≤ monthStart n := by
  unfold monthStart
  omega

/-- The date of day `k` of the month that comes `m` months after March of year `y`. -/
def Date.ofMarch (y : Int) (m k : Nat) : Date :=
  ⟨if m < 10 then y else y + 1, if m < 10 then m + 3 else m - 9, k + 1⟩

/-- The months from March to January have the same lengths in every year. -/
theorem monthStart_succ {m : Nat} (h : m < 11) (year : Nat) :
    monthStart (m + 1) = monthStart m + daysInMonth year (if m < 10 then m + 3 else m - 9) := by
  interval_cases m <;> rfl

/-- What is left of the year is February. -/
theorem marchStart_succ_eq (y : Int) :
    marchStart (y + 1) = marchStart y + monthStart 11 + daysInMonth (y + 1).natAbs 2 := by
  have h : monthStart 11 = 337 := rfl
  rw [marchStart_succ, h]
  show _ = _ + ((if isLeapYear (y + 1).natAbs then 29 else 28 : Nat) : Int)
  split <;> omega

/-- Day `n` is day `k` of the month that comes `m` months after March of year `y`. -/
structure IsMarchDate (n y : Int) (m k : Nat) : Prop where
  total : marchStart y + monthStart m + k = n + epochDay
  inMonth : monthStart m + k < monthStart (m + 1)
  inYear : marchStart y + monthStart m + k < marchStart (y + 1)

variable {n y : Int} {m k : Nat}

theorem IsMarchDate.month_lt (h : IsMarchDate n y m k) : m < 12 := by
  have hyear := h.inYear
  rw [marchStart_succ] at hyear
  by_cases hm : m < 12
  · exact hm
  · have hlong : monthStart 12 ≤ monthStart m := monthStart_mono (by omega)
    have : monthStart 12 = 367 := rfl
    split at hyear <;> omega

/-- A day has one date only. -/
theorem IsMarchDate.unique (h : IsMarchDate n y m k) {y' : Int} {m' k' : Nat}
    (h' : IsMarchDate n y' m' k') : y = y' ∧ m = m' ∧ k = k' := by
  have ht := h.total
  have ht' := h'.total
  have hyear := h.inYear
  have hyear' := h'.inYear
  have hmonth := h.inMonth
  have hmonth' := h'.inMonth
  have hy : y = y' := by
    rcases lt_trichotomy y y' with hlt | heq | hgt
    · have := marchStart_strictMono.monotone (show y + 1 ≤ y' by omega)
      omega
    · exact heq
    · have := marchStart_strictMono.monotone (show y' + 1 ≤ y by omega)
      omega
  subst hy
  have hm : m = m' := by
    rcases Nat.lt_trichotomy m m' with hlt | heq | hgt
    · have := monthStart_mono (show m + 1 ≤ m' by omega)
      omega
    · exact heq
    · have := monthStart_mono (show m' + 1 ≤ m by omega)
      omega
  subst hm
  exact ⟨rfl, rfl, by omega⟩

/-! ## The date of a day -/

/-- A day of a span of four hundred years: its century, the span of four years in it, the year in
that and the day in the year. Only the last year of a span of four years can be longer by a day, and
of those that end a century only the last. -/
theorem inEra_parts {r : Nat} (hr : r < 146097) :
    let c := min 3 (r / 36524)
    let rc := r - 36524 * c
    let q := rc / 1461
    let rq := rc % 1461
    let y := min 3 (rq / 365)
    let x := rq - 365 * y
    c ≤ 3 ∧ q ≤ 24 ∧ y ≤ 3 ∧ r = 36524 * c + 1461 * q + 365 * y + x ∧
      (x < 365 ∨ x = 365 ∧ y = 3 ∧ (q < 24 ∨ c = 3)) := by
  intro c rc q rq y x
  have hc : c ≤ 3 := Nat.min_le_left _ _
  have hrc : 36524 * c + rc = r := by omega
  have hrc' : rc < 36524 ∨ c = 3 ∧ rc ≤ 36524 := by omega
  have hrq : 1461 * q + rq = rc := Nat.div_add_mod rc 1461
  have hrq' : rq < 1461 := Nat.mod_lt rc (by decide)
  have hy : y ≤ 3 := Nat.min_le_left _ _
  have hx : 365 * y + x = rq := by omega
  have hx' : x < 365 ∨ y = 3 ∧ x ≤ 365 := by omega
  clear_value c rc q rq y x
  omega

/-- The first day of the years of a span of four hundred years. -/
theorem marchStart_parts (era : Int) {c q y : Nat} (hc : c ≤ 3) (hq : q ≤ 24) (hy : y ≤ 3) :
    marchStart (400 * era + (100 * c + 4 * q + y : Nat)) =
      146097 * era + 36524 * c + 1461 * q + 365 * y := by
  have h4 : (400 * era + (100 * c + 4 * q + y : Nat)) / 4 = 100 * era + 25 * c + q := by omega
  have h100 : (400 * era + (100 * c + 4 * q + y : Nat)) / 100 = 4 * era + c := by omega
  have h400 : (400 * era + (100 * c + 4 * q + y : Nat)) / 400 = era := by omega
  unfold marchStart
  rw [h4, h100, h400]
  omega

/-- A day of one of these years comes before the first day of the next one. -/
theorem inYear_parts (era : Int) {c q y x : Nat} (hq : q ≤ 24) (hy : y ≤ 3)
    (hx : x < 365 ∨ x = 365 ∧ y = 3 ∧ (q < 24 ∨ c = 3)) :
    marchStart (400 * era + (100 * c + 4 * q + y : Nat)) + x <
      marchStart (400 * era + (100 * c + 4 * q + y : Nat) + 1) := by
  have hleap := isLeapYear_natAbs_iff (400 * era + (100 * c + 4 * q + y : Nat) + 1)
  rw [marchStart_succ]
  split
  · omega
  · next h =>
    rw [hleap] at h
    omega

/-- The computation of a date finds its place in a year from March. -/
theorem exists_march (n : Int) :
    ∃ y m k, IsMarchDate n y m k ∧ Date.ofDays n = Date.ofMarch y m k := by
  unfold Date.ofDays
  simp only
  generalize hd : n + epochDay = d
  have hr : (d % 146097).toNat < 146097 := by omega
  have hera : d = 146097 * (d / 146097) + (d % 146097).toNat := by omega
  obtain ⟨hc, hq, hy, hparts, hx⟩ := inEra_parts hr
  generalize (d % 146097).toNat = r at *
  generalize d / 146097 = era at *
  generalize min 3 (r / 36524) = c at *
  generalize (r - 36524 * c) / 1461 = q at *
  generalize (r - 36524 * c) % 1461 = rq at *
  generalize min 3 (rq / 365) = y at *
  generalize rq - 365 * y = x at *
  have hm : monthStart ((5 * x + 2) / 153) + (x - monthStart ((5 * x + 2) / 153)) = x := by
    unfold monthStart
    omega
  refine ⟨400 * era + (100 * c + 4 * q + y : Nat), (5 * x + 2) / 153,
    x - monthStart ((5 * x + 2) / 153), ⟨?_, ?_, ?_⟩, ?_⟩
  · rw [marchStart_parts era hc hq hy]
    omega
  · rw [hm]
    unfold monthStart
    omega
  · have hyear := inYear_parts era hq hy hx
    omega
  · unfold Date.ofMarch
    split
    · rfl
    · rfl

theorem IsMarchDate.ofDays_eq (h : IsMarchDate n y m k) : Date.ofDays n = Date.ofMarch y m k := by
  obtain ⟨y', m', k', h', hdate⟩ := exists_march n
  obtain ⟨rfl, rfl, rfl⟩ := h.unique h'
  exact hdate

/-- After the last day of a month comes the first day of the next one. -/
theorem Date.ofMarch_succ (h : m < 11) :
    let d := ofMarch y m k
    (if d.month < 12 then ⟨d.year, d.month + 1, 1⟩ else ⟨d.year + 1, 1, 1⟩) =
      ofMarch y (m + 1) 0 := by
  interval_cases m <;> rfl

/-- The day after a day of a year from March. -/
theorem IsMarchDate.next (h : IsMarchDate n y m k) :
    ∃ y' m' k', IsMarchDate (n + 1) y' m' k' ∧
      (Date.ofMarch y m k).next = Date.ofMarch y' m' k' := by
  have ht := h.total
  have hmonth := h.inMonth
  have hyear := h.inYear
  have hm := h.month_lt
  have hzero : monthStart 0 = 0 := rfl
  by_cases hfeb : m < 11
  · have hlength : monthStart (m + 1) = monthStart m +
        daysInMonth (Date.ofMarch y m k).year.natAbs (Date.ofMarch y m k).month :=
      monthStart_succ hfeb _
    have hrest := marchStart_succ_eq y
    have hmono : monthStart (m + 1) ≤ monthStart 11 := monthStart_mono (by omega)
    by_cases hlast : monthStart m + (k + 1) < monthStart (m + 1)
    · refine ⟨y, m, k + 1, ⟨by omega, hlast, by omega⟩, ?_⟩
      exact if_pos (show k + 1 < _ by omega)
    · have hpos : 0 < daysInMonth (y + 1).natAbs 2 := by
        unfold daysInMonth
        split <;> split <;> omega
      refine ⟨y, m + 1, 0, ⟨by omega, (monthStart_lt_succ (m + 1)).1, by omega⟩, ?_⟩
      exact (if_neg (show ¬ k + 1 < _ by omega)).trans (Date.ofMarch_succ hfeb)
  · obtain rfl : m = 11 := by omega
    have hlength : marchStart (y + 1) = marchStart y + monthStart 11 +
        daysInMonth (Date.ofMarch y 11 k).year.natAbs (Date.ofMarch y 11 k).month :=
      marchStart_succ_eq y
    by_cases hlast : marchStart y + monthStart 11 + (k + 1 : Nat) < marchStart (y + 1)
    · have hfit : monthStart 11 + (k + 1) < monthStart 12 := by
        show 337 + (k + 1) < 367
        rw [marchStart_succ] at hlast
        have : monthStart 11 = 337 := rfl
        split at hlast <;> omega
      refine ⟨y, 11, k + 1, ⟨by omega, hfit, hlast⟩, ?_⟩
      exact if_pos (show k + 1 < _ by omega)
    · have hyear' := marchStart_strictMono (show y + 1 < y + 1 + 1 by omega)
      refine ⟨y + 1, 0, 0, ⟨by omega, by decide, by omega⟩, ?_⟩
      exact if_neg (show ¬ k + 1 < _ by omega)

/-- Each day is followed by the next day of the calendar. -/
theorem Date.ofDays_succ (n : Int) : Date.ofDays (n + 1) = (Date.ofDays n).next := by
  obtain ⟨y, m, k, h, hdate⟩ := exists_march n
  obtain ⟨y', m', k', h', hnext⟩ := h.next
  rw [h'.ofDays_eq, hdate, hnext]

example : Date.ofDays 0 = ⟨1970, 1, 1⟩ := by decide

/-! ## The order of dates -/

/-- The months and days that a date can have. -/
structure Date.InRange (d : Date) : Prop where
  month_pos : 0 < d.month
  month_le : d.month ≤ 12
  day_pos : 0 < d.day
  day_le : d.day ≤ 31

theorem Date.inRange_ofDays (n : Int) : (Date.ofDays n).InRange := by
  obtain ⟨y, m, k, h, hdate⟩ := exists_march n
  have hm := h.month_lt
  have hk := h.inMonth
  have hlength := (monthStart_lt_succ m).2
  rw [hdate]
  unfold Date.ofMarch
  split
  · exact ⟨by simp only; omega, by simp only; omega, Nat.succ_pos k, by simp only; omega⟩
  · exact ⟨by simp only; omega, by simp only; omega, Nat.succ_pos k, by simp only; omega⟩

/-- A date as a number that is written year, month, day. -/
def Date.number (d : Date) : Int := 10000 * d.year + 100 * d.month + d.day

theorem Date.InRange.number_lt_next {d : Date} (h : d.InRange) : d.number < d.next.number := by
  have hmonth := h.month_le
  have hday := h.day_le
  unfold Date.next Date.number
  split
  · simp only
    omega
  · split
    · simp only
      omega
    · simp only
      omega

/-- A later day has the greater date. -/
theorem Date.number_ofDays_strictMono : StrictMono fun n => (Date.ofDays n).number := by
  refine strictMono_int_of_lt_succ fun n => ?_
  rw [Date.ofDays_succ]
  exact (Date.inRange_ofDays n).number_lt_next

end SchemaMigration.Calendar
