import CatalogQuery.Time.Calendar

/-!
# The calendar by counting

`CivilDate.ofDays` finds a date by divisions. Here the calendar is written down by its rules: which
years have a leap day, how many days each month has, and the number of a day as the days of the
whole years since 1970, of the whole months of its own year and of its own month.

* `IsDate`: there is such a day in the calendar;
* `dayNumber_eq_toDays`: counting by these rules agrees with the short way to count;
* `isDate_ofDays`, `dayNumber_ofDays`: what is found for a day is a date of the calendar, and its
  number is that day.
-/

namespace CatalogQuery
namespace CivilDate

/-! ## Rules -/

/-- Every fourth year has a leap day, but of the full centuries only every fourth. -/
def IsLeap (year : Int) : Prop := year % 4 = 0 ∧ (year % 100 ≠ 0 ∨ year % 400 = 0)

instance (year : Int) : Decidable (IsLeap year) := inferInstanceAs (Decidable (_ ∧ _))

/-- The days of a year. -/
def yearDays (year : Int) : Nat := if IsLeap year then 366 else 365

/-- The days of a month, January being month one. -/
def monthDays (year : Int) : Nat → Nat
  | 2 => if IsLeap year then 29 else 28
  | 4 | 6 | 9 | 11 => 30
  | _ => 31

/-- There is such a day in the calendar. -/
def IsDate (d : CivilDate) : Prop :=
  (1 ≤ d.month ∧ d.month ≤ 12) ∧ 1 ≤ d.day ∧ d.day ≤ monthDays d.year d.month

instance (d : CivilDate) : Decidable d.IsDate := inferInstanceAs (Decidable (_ ∧ _))

/-- The days of so many years, from a first one on. -/
def daysOfYears (first : Int) : Nat → Nat
  | 0 => 0
  | count + 1 => daysOfYears first count + yearDays (first + count)

/-- The days of so many months of a year, from January on. -/
def daysOfMonths (year : Int) : Nat → Nat
  | 0 => 0
  | count + 1 => daysOfMonths year count + monthDays year (count + 1)

/-- The number of a day, 1970-01-01 being day zero: whole years forwards or backwards from 1970,
the whole months of its year before it, and the days of its month before it. -/
def dayNumber (d : CivilDate) : Int :=
  daysOfYears 1970 (d.year - 1970).toNat - daysOfYears d.year (1970 - d.year).toNat +
    daysOfMonths d.year (d.month - 1) + d.day - 1

/-! ## Whole years -/

/-- The days from a fixed day to the beginning of a year. -/
def yearStart (year : Int) : Int :=
  365 * year + (year - 1) / 4 - (year - 1) / 100 + (year - 1) / 400

/-- A year ends where the next one begins. -/
theorem yearStart_add_one (year : Int) : yearStart (year + 1) = yearStart year + yearDays year := by
  unfold yearStart yearDays
  by_cases hleap : IsLeap year
  · rw [if_pos hleap]
    unfold IsLeap at hleap
    omega
  · rw [if_neg hleap]
    unfold IsLeap at hleap
    omega

theorem daysOfYears_eq (first : Int) (count : Nat) :
    (daysOfYears first count : Int) = yearStart (first + count) - yearStart first := by
  induction count with
  | zero => simp [daysOfYears]
  | succ count ih =>
      have hnext := yearStart_add_one (first + count)
      have hcast : first + ((count + 1 : Nat) : Int) = first + count + 1 := by omega
      rw [daysOfYears, Int.natCast_add, ih, hcast, hnext]
      omega

/-- Whether a date lies before or after 1970, its number is counted from the same day. -/
theorem dayNumber_eq (d : CivilDate) :
    d.dayNumber = yearStart d.year - yearStart 1970 + daysOfMonths d.year (d.month - 1) +
      d.day - 1 := by
  rw [dayNumber, daysOfYears_eq, daysOfYears_eq]
  rcases Int.le_total 1970 d.year with hafter | hbefore
  · have hforwards : (1970 : Int) + (d.year - 1970).toNat = d.year := by omega
    have hnone : d.year + (1970 - d.year).toNat = d.year := by omega
    rw [hforwards, hnone]
    omega
  · have hbackwards : d.year + (1970 - d.year).toNat = 1970 := by omega
    have hnone : (1970 : Int) + (d.year - 1970).toNat = 1970 := by omega
    rw [hbackwards, hnone]
    omega

/-! ## The short way to count -/

/-- The days before a year counted from March, over eras and the years of the era. -/
theorem daysBeforeYear_era (year : Int) :
    146097 * (year / 400) + daysBeforeYear (year % 400).toNat =
      365 * year + year / 4 - year / 100 + year / 400 := by
  unfold daysBeforeYear
  omega

/-- The leap day is the last one of February. -/
theorem yearDays_eq (year : Int) : yearDays year = 337 + monthDays year 2 := by
  unfold yearDays
  by_cases hleap : IsLeap year
  · simp [monthDays, hleap]
  · simp [monthDays, hleap]

/-- From March to December each month ends where the next one begins. -/
theorem daysBeforeMonth_add_one (year : Int) {month : Nat} (h : month < 10) :
    daysBeforeMonth (month + 1) = daysBeforeMonth month + monthDays year (month + 3) := by
  match month, h with
  | 0, _ | 1, _ | 2, _ | 3, _ | 4, _ | 5, _ | 6, _ | 7, _ | 8, _ | 9, _ => rfl

/-- The days before a month are those of January and February and those from March on. -/
theorem daysOfMonths_eq (year : Int) {month : Nat} (h : month < 10) :
    daysOfMonths year (month + 2) = 31 + monthDays year 2 + daysBeforeMonth month := by
  induction month with
  | zero => rfl
  | succ month ih =>
      have hmonth := daysBeforeMonth_add_one year (show month < 10 by omega)
      have hdays := ih (by omega)
      show daysOfMonths year (month + 2) + monthDays year (month + 3) = _
      omega

/-- A date from January or February belongs to the year that began in the March before it, and a
leap day of its own year is still to come. -/
theorem dayNumber_eq_toDays {d : CivilDate} (h : d.IsDate) : d.dayNumber = d.toDays := by
  obtain ⟨year, month, day⟩ := d
  obtain ⟨⟨hfirst, hlast⟩, -⟩ := h
  rw [dayNumber_eq, toDays]
  dsimp only at hfirst hlast ⊢
  by_cases hearly : month ≤ 2
  · -- the months from March on that come before belong to the year before
    have hyear : marchYear ⟨year, month, day⟩ = year - 1 := if_pos hearly
    have hmonth : marchMonth ⟨year, month, day⟩ = month + 9 := if_pos hearly
    have hbefore : daysOfMonths year (month - 1) = 31 * (month - 1) := by
      obtain rfl | rfl : month = 1 ∨ month = 2 := by omega
      · rfl
      · rfl
    rw [hyear, hmonth, daysBeforeYear_era, hbefore]
    unfold yearStart daysBeforeMonth epoch
    omega
  · obtain ⟨k, rfl⟩ : ∃ k, month = k + 3 := ⟨month - 3, by omega⟩
    have hyear : marchYear ⟨year, k + 3, day⟩ = year := if_neg hearly
    have hmonth : marchMonth ⟨year, k + 3, day⟩ = k := if_neg hearly
    have hbefore := daysOfMonths_eq year (show k < 10 by omega)
    have hwhole := yearStart_add_one year
    have hleap := yearDays_eq year
    rw [hyear, hmonth, daysBeforeYear_era]
    show yearStart year - yearStart 1970 + (daysOfMonths year (k + 2) : Int) + day - 1 = _
    rw [hbefore]
    unfold yearStart at *
    unfold epoch
    omega

/-! ## Dates that are found -/

/-- A day of an era by centuries, fours and years. A year that is not the last of its four has no
leap day, nor has the last year of a century that is not the last of its era. -/
theorem exists_yearOfEra {day : Nat} (h : day < 146097) :
    ∃ c q y, (c ≤ 3 ∧ q < 25 ∧ y < 4) ∧ yearOfEra day = 100 * c + 4 * q + y ∧
      day < 36524 * c + 1461 * q + 365 * y + 366 ∧
      (y < 3 ∨ q = 24 ∧ c < 3 → day < 36524 * c + 1461 * q + 365 * y + 365) := by
  have hcentury : min 3 (day / 36524) ≤ 3 := Nat.min_le_left _ _
  refine ⟨min 3 (day / 36524), (day - 36524 * min 3 (day / 36524)) / 1461,
    min 3 ((day - 36524 * min 3 (day / 36524)) % 1461 / 365), ⟨hcentury, ?_, ?_⟩, rfl, ?_, ?_⟩
  · omega
  · omega
  · omega
  · omega

/-- A day lies in the year from March that is found for it: the February at its end has a leap day
when the next year is a leap year. -/
theorem lt_of_yearOfEra {day : Nat} (h : day < 146097) (era : Int) :
    day < daysBeforeYear (yearOfEra day) + 337 +
      monthDays (400 * era + yearOfEra day + 1) 2 := by
  obtain ⟨c, q, y, ⟨hc, hq, hy⟩, hyear, hlast, hplain⟩ := exists_yearOfEra h
  rw [Nat.add_assoc, ← yearDays_eq, yearDays, hyear, daysBeforeYear_split hq hy]
  by_cases hleap : IsLeap (400 * era + (100 * c + 4 * q + y : Nat) + 1)
  · rw [if_pos hleap]
    exact hlast
  · rw [if_neg hleap]
    unfold IsLeap at hleap
    omega

/-- No month has more than 31 days. -/
theorem monthDays_le (year : Int) (month : Nat) : monthDays year month ≤ 31 := by
  unfold monthDays
  split
  · split <;> omega
  all_goals omega

/-- A day of a year from March is a date of that year or, in January and February, of the next. -/
theorem isDate_ofMarch (year : Int) {day : Nat} (h : day < 337 + monthDays (year + 1) 2) :
    (ofMarch year (monthOfYear day) (day - daysBeforeMonth (monthOfYear day) + 1)).IsDate := by
  have hfebruary : monthDays (year + 1) 2 ≤ 29 := by
    show (if IsLeap (year + 1) then 29 else 28) ≤ 29
    split <;> omega
  obtain ⟨hmonth, hstart⟩ := monthOfYear_bounds (show day < 366 by omega)
  have hend : day < daysBeforeMonth (monthOfYear day + 1) := by
    unfold daysBeforeMonth monthOfYear
    omega
  generalize monthOfYear day = month at *
  unfold ofMarch
  by_cases hyear : month < 10
  · have hdays := daysBeforeMonth_add_one year hyear
    rw [if_pos hyear]
    refine ⟨⟨Nat.le_add_left 1 _, ?_⟩, Nat.le_add_left 1 _, ?_⟩
    · show month + 3 ≤ 12
      omega
    · show day - daysBeforeMonth month + 1 ≤ monthDays year (month + 3)
      omega
  · rw [if_neg hyear]
    obtain rfl | rfl : month = 10 ∨ month = 11 := by omega
    · have hjanuary : daysBeforeMonth (10 + 1) = daysBeforeMonth 10 + 31 := rfl
      refine ⟨⟨Nat.le_refl 1, Nat.le_add_left 1 11⟩, Nat.le_add_left 1 _, ?_⟩
      show day - daysBeforeMonth 10 + 1 ≤ 31
      omega
    · have hbefore : daysBeforeMonth 11 = 337 := rfl
      refine ⟨⟨Nat.le_add_left 1 1, Nat.le_add_left 2 10⟩, Nat.le_add_left 1 _, ?_⟩
      show day - daysBeforeMonth 11 + 1 ≤ monthDays (year + 1) 2
      omega

/-- What is found for a day is a date of the calendar. -/
theorem isDate_ofDays (days : Int) : (ofDays days).IsDate := by
  have hupper : (days + epoch) % 146097 < 146097 := Int.emod_lt_of_pos _ (by decide)
  have hlower : 0 ≤ (days + epoch) % 146097 := Int.emod_nonneg _ (by decide)
  have hfebruary := lt_of_yearOfEra
    (show ((days + epoch) % 146097).toNat < 146097 by omega) ((days + epoch) / 146097)
  exact isDate_ofMarch _ (by omega)

/-- The number of the date that is found for a day is that day. -/
theorem dayNumber_ofDays (days : Int) : (ofDays days).dayNumber = days := by
  rw [dayNumber_eq_toDays (isDate_ofDays days), toDays_ofDays]

end CivilDate
end CatalogQuery
