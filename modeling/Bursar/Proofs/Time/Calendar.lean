import Bursar.Time.Calendar
import Mathlib.Tactic.IntervalCases

/-!
# Days and dates

`dayNumber` takes back what `civilOfDay` does (`dayNumber_civilOfDay`), and what that one
names is a day of the calendar (`isValid_civilOfDay`).

Both sides count years from March and group them into eras of 400 years. Within an era a day
is a year and a day of that year (`YearAndDay`): centuries, then groups of four years, then
years, where the last one of its group keeps its leap day (`yearAndDay_of_dayOfEra`). Within a
year that starts in March the day names the date, wherever the year lies (`dateFromMarch`).
-/

namespace Bursar.Time

/-! ## Years of an era -/

/-- Day `d` of an era is day `r` of its year `y`; there is a day 365 only before a March that
follows a leap day. -/
structure YearAndDay (d y r : Int) : Prop where
  days : d = 365 * y + y / 4 - y / 100 + r
  year : 0 ≤ y ∧ y ≤ 399
  day : 0 ≤ r ∧ r ≤ 365
  leap : r = 365 → isLeapYear (y + 1) = true

theorem isLeapYear_iff {year : Int} :
    isLeapYear year = true ↔ year % 4 = 0 ∧ (year % 100 ≠ 0 ∨ year % 400 = 0) := by
  simp [isLeapYear]

/-- Eras are alike. -/
theorem isLeapYear_add_era (year era : Int) : isLeapYear (year + era * 400) = isLeapYear year := by
  rw [Bool.eq_iff_iff, isLeapYear_iff, isLeapYear_iff]
  omega

/-- Day `d` of an era is day `r` of year `k` of group `g` of century `c`, where a group has four years;
there is a day 365 only at the end of a group, and not at the end of a century, but for the last one. -/
structure Grouped (d c g k r : Int) : Prop where
  days : d = 36524 * c + 1461 * g + 365 * k + r
  century : 0 ≤ c ∧ c ≤ 3
  group : 0 ≤ g ∧ g ≤ 24
  year : 0 ≤ k ∧ k ≤ 3
  day : 0 ≤ r ∧ r ≤ 365
  leap : r = 365 → k = 3 ∧ (g ≠ 24 ∨ c = 3)

theorem exists_grouped {d : Int} (h0 : 0 ≤ d) (h1 : d < 146097) : ∃ c g k r, Grouped d c g k r := by
  by_cases hlast : d = 146096
  · exact ⟨3, 24, 3, 365, by omega, by omega, by omega, by omega, by omega, by omega⟩
  obtain ⟨c, s, hd, hc, hs⟩ : ∃ c s : Int, d = 36524 * c + s ∧ (0 ≤ c ∧ c ≤ 3) ∧ (0 ≤ s ∧ s < 36524) :=
    ⟨d / 36524, d % 36524, by omega⟩
  obtain ⟨g, m, hm, hg, hrange⟩ : ∃ g m : Int, s = 1461 * g + m ∧ (0 ≤ g ∧ g ≤ 24) ∧ (0 ≤ m ∧ m < 1461) :=
    ⟨s / 1461, s % 1461, by omega⟩
  by_cases hleap : m = 1460
  · exact ⟨c, g, 3, 365, by omega, hc, hg, by omega, by omega, by omega⟩
  · exact ⟨c, g, m / 365, m % 365, by omega, hc, hg, by omega, by omega, by omega⟩

/-- The quotient without the leap days counts the years. -/
theorem Grouped.yearOfEra_eq {d c g k r : Int} (h : Grouped d c g k r) :
    (d - d / 1460 + d / 36524 - d / 146096) / 365 = 100 * c + 4 * g + k := by
  obtain ⟨hd, hc, hg, hk, hr, hleap⟩ := h
  by_cases hlast : d = 146096
  · subst hlast
    omega
  · have hcentury : d / 36524 = c := by omega
    have hera : d / 146096 = 0 := by omega
    have hgroups : d / 1460 = 25 * c + g + (24 * c + g + 365 * k + r) / 1460 := by omega
    rw [hcentury, hera, hgroups]
    have hleapDays : (24 * c + g + 365 * k + r) / 1460 ≤ r := by omega
    omega

/-- **A day of an era is split into its year and the day of that year.** -/
theorem yearAndDay_of_dayOfEra {d : Int} (h0 : 0 ≤ d) (h1 : d < 146097) :
    let y := (d - d / 1460 + d / 36524 - d / 146096) / 365
    YearAndDay d y (d - (365 * y + y / 4 - y / 100)) := by
  intro y
  obtain ⟨c, g, k, r, h⟩ := exists_grouped h0 h1
  have hyear : y = 100 * c + 4 * g + k := h.yearOfEra_eq
  clear_value y
  obtain ⟨hd, hc, hg, hk, hr, hleap⟩ := h
  have hgroup : y / 4 = 25 * c + g := by omega
  have hcentury : y / 100 = c := by omega
  have hday : d - (365 * y + y / 4 - y / 100) = r := by omega
  rw [hday]
  refine ⟨by omega, by omega, hr, fun hlast => ?_⟩
  rw [isLeapYear_iff]
  have hgroups := hleap hlast
  omega

/-! ## Days of a year -/

/-- Day `r` of a year that starts in March is day `k` of its month `m`, both counted from zero. -/
structure MonthAndDay (r m k : Int) : Prop where
  days : r = (153 * m + 2) / 5 + k
  month : 0 ≤ m ∧ m ≤ 11
  day : 0 ≤ k ∧ r < (153 * (m + 1) + 2) / 5

/-- **A day of a year is split into its month and the day of that month.** -/
theorem monthAndDay_of_dayOfYear {r : Int} (hr : 0 ≤ r ∧ r ≤ 365) :
    let m := (5 * r + 2) / 153
    MonthAndDay r m (r - (153 * m + 2) / 5) := by
  intro m
  refine ⟨by omega, by omega, by omega⟩

/-- The date of a day of a month, where years and months are counted from March. -/
def dateFromMarch (year m k : Int) : Date :=
  let month := if m < 10 then m + 3 else m - 9
  { year := if month ≤ 2 then year + 1 else year, month := month.toNat, day := (k + 1).toNat }

variable {year r m k : Int}

theorem dayNumber_dateFromMarch (h : MonthAndDay r m k) :
    dayNumber (dateFromMarch year m k) =
      year / 400 * 146097 + (365 * (year % 400) + year % 400 / 4 - year % 400 / 100 + r) - 719468 := by
  obtain ⟨hdays, hmonth, hday⟩ := h
  simp only [dayNumber, dateFromMarch]
  by_cases hm : m < 10
  · have hlate : ¬ m + 3 ≤ 2 := by omega
    have hnat : ¬ (m + 3).toNat ≤ 2 := by omega
    have hback : (((m + 3).toNat : Int) + 9) % 12 = m := by omega
    simp only [hm, hlate, hnat, hback, if_true, if_false]
    omega
  · have hearly : m - 9 ≤ 2 := by omega
    have hnat : (m - 9).toNat ≤ 2 := by omega
    have hback : (((m - 9).toNat : Int) + 9) % 12 = m := by omega
    simp only [hm, hearly, hnat, hback, if_true, if_false, Int.add_sub_cancel]
    omega

theorem Date.isValid_iff {d : Date} :
    d.isValid = true ↔ (1 ≤ d.month ∧ d.month ≤ 12) ∧ 1 ≤ d.day ∧ d.day ≤ daysInMonth d.year d.month := by
  simp only [Date.isValid, Bool.and_eq_true, decide_eq_true_eq, and_assoc]

theorem isValid_dateFromMarch (h : MonthAndDay r m k) (hr : r ≤ 365)
    (hleap : r = 365 → isLeapYear (year + 1) = true) : (dateFromMarch year m k).isValid = true := by
  obtain ⟨hdays, ⟨hlow, hhigh⟩, hday⟩ := h
  rw [Date.isValid_iff]
  by_cases hm : m = 11
  · -- February comes last: it is short of the leap day, unless the year has one.
    subst hm
    cases hyear : isLeapYear (year + 1) with
    | true => simp [dateFromMarch, daysInMonth, hyear]; omega
    | false =>
      have hshort : r ≠ 365 := fun hlast => by simp [hleap hlast] at hyear
      simp [dateFromMarch, daysInMonth, hyear]
      omega
  · interval_cases m <;> simp [dateFromMarch, daysInMonth] <;> omega

/-! ## Days and dates -/

/-- **The date of a day**: its era, the year of that era, the month of that year and the day of that
month. -/
theorem civilOfDay_spec (z : Int) :
    ∃ era y r m k, z + 719468 = era * 146097 + (365 * y + y / 4 - y / 100 + r) ∧
      YearAndDay (365 * y + y / 4 - y / 100 + r) y r ∧ MonthAndDay r m k ∧
      civilOfDay z = dateFromMarch (y + era * 400) m k := by
  have hyear := yearAndDay_of_dayOfEra (d := (z + 719468) % 146097) (by omega) (by omega)
  have hmonth := monthAndDay_of_dayOfYear hyear.day
  refine ⟨(z + 719468) / 146097, _, _, _, _, ?_, ?_, hmonth, rfl⟩
  · rw [← hyear.days]
    omega
  · rw [← hyear.days]
    exact hyear

/-- **A day is read back from its date.** -/
theorem dayNumber_civilOfDay (z : Int) : dayNumber (civilOfDay z) = z := by
  obtain ⟨era, y, r, m, k, hz, hyear, hmonth, hdate⟩ := civilOfDay_spec z
  have hera : (y + era * 400) / 400 = era := by have := hyear.year; omega
  have hofEra : (y + era * 400) % 400 = y := by have := hyear.year; omega
  rw [hdate, dayNumber_dateFromMarch hmonth, hera, hofEra]
  omega

/-- **What a day is named by is a date.** -/
theorem isValid_civilOfDay (z : Int) : (civilOfDay z).isValid = true := by
  obtain ⟨era, y, r, m, k, -, hyear, hmonth, hdate⟩ := civilOfDay_spec z
  rw [hdate]
  refine isValid_dateFromMarch hmonth hyear.day.2 fun hlast => ?_
  rw [Int.add_right_comm, isLeapYear_add_era]
  exact hyear.leap hlast

example : civilOfDay 19782 = ⟨2024, 2, 29⟩ := by decide

theorem daysInMonth_le (year : Int) (month : Nat) : daysInMonth year month ≤ 31 := by
  unfold daysInMonth
  split_ifs <;> decide

/-- A year in four digits is within ten thousand years of the first. -/
theorem dayNumber_range {d : Date} (h : d.isValid = true) (hyear : 0 ≤ d.year ∧ d.year ≤ 9999) :
    -730000 ≤ dayNumber d ∧ dayNumber d ≤ 3000000 := by
  obtain ⟨hmonth, hday, hlast⟩ := Date.isValid_iff.mp h
  have hlength := daysInMonth_le d.year d.month
  simp only [dayNumber]
  split <;> omega

end Bursar.Time
