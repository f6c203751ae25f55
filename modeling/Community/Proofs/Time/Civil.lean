import Community.Time.Timestamp

/-!
# The calendar, forth and back

A day number is taken apart into era, year of the era and day of the year, and the parts
make a date. This file shows that nothing is lost on the way and that the date is one of
the calendar:

> `dayNumber_ofDayNumber`: the number of the date of a day is the number of the day.

The one step that is not plain arithmetic is the year of a day of an era. `yearOfDay` is
monotone, and right on the first and on the last day of each of the four hundred years;
`lies_in_year` is what that leaves for the days between.
-/

namespace Community.Time

theorem yearOfDay_mono {a b : Nat} (h : a ≤ b) (hb : b < 146097) :
    yearOfDay a ≤ yearOfDay b := by
  have hdays : a - a / 1460 + a / 36524 - a / 146096
      ≤ b - b / 1460 + b / 36524 - b / 146096 := by
    omega
  exact Nat.div_le_div_right hdays

theorem yearOfDay_first : ∀ y < 400, yearOfDay (daysBeforeYear y) = y := by
  decide +kernel

theorem yearOfDay_last : ∀ y < 400, yearOfDay (daysBeforeYear (y + 1) - 1) = y := by
  decide +kernel

/-- A day of an era lies in the year that is found for it. -/
theorem lies_in_year {d : Nat} (hd : d < 146097) :
    yearOfDay d < 400 ∧ daysBeforeYear (yearOfDay d) ≤ d ∧
    d < daysBeforeYear (yearOfDay d + 1) := by
  have hyear : yearOfDay d < 400 := by
    unfold yearOfDay
    omega
  refine ⟨hyear, Nat.not_lt.mp fun hbefore => ?_, Nat.not_le.mp fun hafter => ?_⟩
  · -- then the day before the year is in it too, and it is the last one of the year before
    obtain ⟨y, hy⟩ : ∃ y, yearOfDay d = y + 1 := by
      refine Nat.exists_eq_succ_of_ne_zero fun hzero => ?_
      rw [hzero] at hbefore
      exact Nat.not_lt_zero d hbefore
    rw [hy] at hbefore
    have hlast := yearOfDay_last y (by omega)
    have hmono := yearOfDay_mono (show d ≤ daysBeforeYear (y + 1) - 1 by omega)
      (by unfold daysBeforeYear; omega)
    omega
  · have hend : yearOfDay d + 1 < 400 := by
      unfold daysBeforeYear at hafter
      omega
    have hfirst := yearOfDay_first _ hend
    have hmono := yearOfDay_mono hafter hd
    omega

/-- What the parts of a date are, and how they belong together. -/
theorem ofDayNumber_parts (n : Int) :
    ∃ (era : Int) (y d m : Nat), y < 400 ∧ m < 12 ∧
      n = 146097 * era + daysBeforeYear y + d ∧
      daysBeforeYear y + d < daysBeforeYear (y + 1) ∧
      (153 * m + 2) / 5 ≤ d ∧ d < (153 * (m + 1) + 2) / 5 ∧
      Date.ofDayNumber n = {
        year := 400 * era + y + (if m < 10 then 0 else 1)
        month := if m < 10 then m + 3 else m - 9
        day := d - (153 * m + 2) / 5 + 1 } := by
  -- names for the year and the day in it, so that the rest is linear
  obtain ⟨hyear, hfirst, hlast⟩ := lies_in_year (d := (n % 146097).toNat) (by omega)
  generalize hn : (n % 146097).toNat = dayOfEra at hyear hfirst hlast
  generalize hy : yearOfDay dayOfEra = y at hyear hfirst hlast
  obtain ⟨d, hd⟩ := Nat.le.dest hfirst
  have hlength : d < 366 := by
    unfold daysBeforeYear at *
    omega
  have hm : (5 * d + 2) / 153 < 12 := by omega
  refine ⟨n / 146097, y, d, (5 * d + 2) / 153, hyear,
    hm, by omega, by omega, by omega, by omega, ?_⟩
  have hday : dayOfEra - daysBeforeYear y = d := by omega
  simp only [Date.ofDayNumber, hn, hy, hday, Date.mk.injEq, true_and]
  refine ⟨?_, trivial⟩
  by_cases h : (5 * d + 2) / 153 < 10
  · rw [if_pos h, if_pos h, if_neg (by omega)]
    omega
  · rw [if_neg h, if_neg h, if_pos (by omega)]
    omega

theorem dayNumber_ofDayNumber (n : Int) :
    dayNumber (Date.ofDayNumber n).year (Date.ofDayNumber n).month
      (Date.ofDayNumber n).day = n := by
  obtain ⟨era, y, d, m, hy, hm, hn, hin, hlow, hhigh, hdate⟩ := ofDayNumber_parts n
  rw [hdate]
  unfold dayNumber
  unfold daysBeforeYear at *
  dsimp only
  by_cases h : m < 10
  · have hmonth : (m + 3 + 9) % 12 = m := by omega
    simp only [if_pos h, hmonth, if_neg (show ¬ m + 3 ≤ 2 by omega)]
    omega
  · have hmonth : (m - 9 + 9) % 12 = m := by omega
    simp only [if_neg h, hmonth, if_pos (show m - 9 ≤ 2 by omega)]
    omega

/-- A year that has a day with the number 365 ends with the day that a leap year adds. -/
theorem isLeapYear_of_long {era : Int} {y : Nat}
    (h : daysBeforeYear y + 365 < daysBeforeYear (y + 1)) :
    isLeapYear (400 * era + y + 1) = true := by
  unfold daysBeforeYear at h
  simp only [isLeapYear, Bool.or_eq_true, Bool.and_eq_true, beq_iff_eq, bne_iff_ne]
  by_cases hera : (y + 1) % 400 = 0
  · right
    omega
  · left
    omega

/-- Counted from March, every month but the last is as long in every year. -/
theorem daysInMonth_of_lt (year : Int) {m : Nat} (hm : m < 11) :
    daysInMonth year (if m < 10 then m + 3 else m - 9)
      = (153 * (m + 1) + 2) / 5 - (153 * m + 2) / 5 := by
  rcases (by omega : m = 0 ∨ m = 1 ∨ m = 2 ∨ m = 3 ∨ m = 4 ∨ m = 5 ∨ m = 6 ∨ m = 7 ∨ m = 8 ∨
    m = 9 ∨ m = 10) with rfl | rfl | rfl | rfl | rfl | rfl | rfl | rfl | rfl | rfl | rfl
  all_goals rfl

/-- The date of a day is one of the calendar. -/
theorem day_le_daysInMonth (n : Int) :
    1 ≤ (Date.ofDayNumber n).day ∧
      (Date.ofDayNumber n).day ≤ daysInMonth (Date.ofDayNumber n).year
        (Date.ofDayNumber n).month := by
  obtain ⟨era, y, d, m, hy, hm, hn, hin, hlow, hhigh, hdate⟩ := ofDayNumber_parts n
  rw [hdate]
  refine ⟨Nat.le_add_left _ _, ?_⟩
  dsimp only
  by_cases hlast : m < 11
  · rw [daysInMonth_of_lt _ hlast]
    omega
  · -- the last month is February, which has the day that a leap year adds
    obtain rfl : m = 11 := by omega
    have hlength : d < 366 := by
      unfold daysBeforeYear at hin
      omega
    show d - 337 + 1 ≤ if isLeapYear (400 * era + y + 1) = true then 29 else 28
    split
    · omega
    · next hleap =>
      have hshort : ¬ daysBeforeYear y + 365 < daysBeforeYear (y + 1) := fun hlong =>
        hleap (isLeapYear_of_long hlong)
      omega

/-- Microseconds from the start of 2025 to the end of the years that are kept track of. -/
def calendarEnd : Nat :=
  86400000000 * (dayNumber 262143 1 1 - dayNumber 2025 1 1).toNat

/-- The years of the days from 2025 to the end of the calendar. -/
theorem year_of_day {days : Nat} (h : dayNumber 2025 1 1 + days < dayNumber 262143 1 1) :
    0 ≤ (Date.ofDayNumber (dayNumber 2025 1 1 + days)).year ∧
      (Date.ofDayNumber (dayNumber 2025 1 1 + days)).year ≤ 262142 := by
  have hstart : dayNumber 2025 1 1 = 739557 := rfl
  have hend : dayNumber 262143 1 1 = 95745705 := rfl
  obtain ⟨era, y, d, m, hy, hm, hn, hin, hlow, hhigh, hdate⟩ :=
    ofDayNumber_parts (dayNumber 2025 1 1 + days)
  rw [hdate]
  unfold daysBeforeYear at hn hin
  dsimp only
  have hera : 0 ≤ era ∧ era ≤ 655 := by omega
  -- the last era is cut off after 142 years, in its December
  have hlast : era = 655 → y ≤ 142 := by omega
  have hdecember : era = 655 → y = 142 → d < 306 := by omega
  by_cases hmonth : m < 10
  · rw [if_pos hmonth]
    omega
  · rw [if_neg hmonth]
    omega

/-- Until the calendar ends the clock shows timestamps that can be read. -/
theorem Timestamp.ofMicros_valid {us : Nat} (h : us < calendarEnd) :
    (ofMicros us).Valid := by
  obtain ⟨days, hdays⟩ : ∃ days, days = us / 1000000 / 86400 := ⟨_, rfl⟩
  have hstart : dayNumber 2025 1 1 = 739557 := rfl
  have hend : dayNumber 262143 1 1 = 95745705 := rfl
  have hfirst : dayNumber (-262143) 1 1 = -95745824 := rfl
  have hlast : dayNumber 262142 12 31 = 95745704 := rfl
  have hbound : dayNumber 2025 1 1 + days < dayNumber 262143 1 1 := by
    unfold calendarEnd at h
    omega
  obtain ⟨hpositive, hyear⟩ := year_of_day hbound
  obtain ⟨hday, hmonth⟩ := day_le_daysInMonth (dayNumber 2025 1 1 + days)
  have hnumber := dayNumber_ofDayNumber (dayNumber 2025 1 1 + days)
  have hdays' : ((us / 1000000 : Nat) : Int) / 86400 = days := by omega
  simp only [ofMicros, Valid, universalDay, hdays', hnumber]
  refine ⟨by omega, hyear, hday, hmonth, ?_⟩
  omega

/-- The instants of the clock, in nanoseconds, go with its microseconds. -/
theorem Timestamp.instant_ofMicros (us : Nat) :
    (ofMicros us).instant = 86400000000000 * dayNumber 2025 1 1 + 1000 * us := by
  have hnumber :=
    dayNumber_ofDayNumber (dayNumber 2025 1 1 + ((us / 1000000 : Nat) : Int) / 86400)
  simp only [ofMicros, instant, hnumber]
  omega

end Community.Time
