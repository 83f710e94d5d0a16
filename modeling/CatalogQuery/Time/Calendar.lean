/-!
# The civil calendar

The Gregorian calendar without a beginning: the rule of leap years holds for all years, and a year
zero stands before the year one. Days are counted from 1970-01-01.

A year is counted here from the first of March, so that a leap day is the last day of its year.
Four hundred such years, an era, have 146097 days. Main statement: counting the days of the date
found for a day gives that day back (`toDays_ofDays`).
-/

namespace CatalogQuery

/-- A date of the civil calendar. -/
structure CivilDate where
  year : Int
  month : Nat
  day : Nat
  deriving DecidableEq, Repr

namespace CivilDate

/-! ## Years and months from March -/

/-- The days of an era before its `year`-th year. -/
def daysBeforeYear (year : Nat) : Nat := 365 * year + year / 4 - year / 100

/-- The year of an era that a day of the era falls in: a century of 36524 days, but for the last
one of 36525, then four years of 1461 days, then years of 365 days, but for a leap year. -/
def yearOfEra (day : Nat) : Nat :=
  let century := min 3 (day / 36524)
  let ofCentury := day - 36524 * century
  100 * century + 4 * (ofCentury / 1461) + min 3 (ofCentury % 1461 / 365)

/-- The days of a year before its `month`-th month, March being month zero. -/
def daysBeforeMonth (month : Nat) : Nat := (153 * month + 2) / 5

/-- The month, March being month zero, that a day of a year falls in. -/
def monthOfYear (day : Nat) : Nat := (5 * day + 2) / 153

/-- The date with the year and the month counted from March. -/
def ofMarch (year : Int) (month day : Nat) : CivilDate :=
  if month < 10 then ⟨year, month + 3, day⟩ else ⟨year + 1, month - 9, day⟩

/-- The year of a date, counted from March. -/
def marchYear (d : CivilDate) : Int := if d.month ≤ 2 then d.year - 1 else d.year

/-- The month of a date, March being month zero. -/
def marchMonth (d : CivilDate) : Nat := if d.month ≤ 2 then d.month + 9 else d.month - 3

/-! ## Counting days -/

/-- The days between 0000-03-01 and 1970-01-01. -/
def epoch : Int := 719468

/-- The date of the `days`-th day since 1970-01-01. -/
def ofDays (days : Int) : CivilDate :=
  let dayOfEra := ((days + epoch) % 146097).toNat
  let year := yearOfEra dayOfEra
  let dayOfYear := dayOfEra - daysBeforeYear year
  let month := monthOfYear dayOfYear
  ofMarch (400 * ((days + epoch) / 146097) + year) month (dayOfYear - daysBeforeMonth month + 1)

/-- The number of days from 1970-01-01 to a date. -/
def toDays (d : CivilDate) : Int :=
  146097 * (d.marchYear / 400) + daysBeforeYear (d.marchYear % 400).toNat +
    daysBeforeMonth d.marchMonth + d.day - 1 - epoch

/-! ## Counting back -/

@[simp] theorem marchYear_ofMarch (year : Int) {month : Nat} (day : Nat) (h : month < 12) :
    (ofMarch year month day).marchYear = year := by
  unfold ofMarch marchYear
  grind

@[simp] theorem marchMonth_ofMarch (year : Int) {month : Nat} (day : Nat) (h : month < 12) :
    (ofMarch year month day).marchMonth = month := by
  unfold ofMarch marchMonth
  grind

@[simp] theorem day_ofMarch (year : Int) (month day : Nat) :
    (ofMarch year month day).day = day := by
  unfold ofMarch
  split <;> rfl

/-- The years before a year of an era, counted in centuries and in fours. -/
theorem daysBeforeYear_split {c q y : Nat} (hq : q < 25) (hy : y < 4) :
    daysBeforeYear (100 * c + 4 * q + y) = 36524 * c + 1461 * q + 365 * y := by
  have h1 : (100 * c + 4 * q + y) / 4 = 25 * c + q := by omega
  have h2 : (100 * c + 4 * q + y) / 100 = c := by omega
  rw [daysBeforeYear, h1, h2]
  omega

/-- A day of an era lies in the year found for it. -/
theorem yearOfEra_bounds {day : Nat} (h : day < 146097) :
    yearOfEra day < 400 ∧ daysBeforeYear (yearOfEra day) ≤ day ∧
      day < daysBeforeYear (yearOfEra day) + 366 := by
  have hc : min 3 (day / 36524) ≤ 3 := Nat.min_le_left _ _
  have hc1 : 36524 * min 3 (day / 36524) ≤ day := by omega
  have hc2 : day - 36524 * min 3 (day / 36524) < 36525 := by omega
  unfold yearOfEra
  dsimp only
  generalize hC : min 3 (day / 36524) = c at *
  generalize hD : day - 36524 * c = d at *
  have hq : d / 1461 < 25 := by omega
  have hy : min 3 (d % 1461 / 365) < 4 := by omega
  rw [daysBeforeYear_split hq hy]
  omega

/-- A day of a year lies in the month found for it. -/
theorem monthOfYear_bounds {day : Nat} (h : day < 366) :
    monthOfYear day < 12 ∧ daysBeforeMonth (monthOfYear day) ≤ day := by
  unfold daysBeforeMonth monthOfYear
  omega

/-- The date found for a day is that day's date. -/
theorem toDays_ofDays (days : Int) : toDays (ofDays days) = days := by
  have hn : (days + epoch) % 146097 < 146097 := Int.emod_lt_of_pos _ (by decide)
  have hp : 0 ≤ (days + epoch) % 146097 := Int.emod_nonneg _ (by decide)
  have he := Int.mul_ediv_add_emod (days + epoch) 146097
  unfold ofDays
  dsimp only
  generalize (days + epoch) / 146097 = era at *
  generalize (days + epoch) % 146097 = n at *
  obtain ⟨k, rfl⟩ := Int.eq_ofNat_of_zero_le hp
  rw [Int.toNat_natCast]
  obtain ⟨hy, hy1, hy2⟩ := @yearOfEra_bounds k (by omega)
  generalize yearOfEra k = y at *
  obtain ⟨hm, hm1⟩ := @monthOfYear_bounds (k - daysBeforeYear y) (by omega)
  generalize monthOfYear (k - daysBeforeYear y) = m at *
  have e1 : (400 * era + (y : Int)) / 400 = era := by omega
  have e2 : ((400 * era + (y : Int)) % 400).toNat = y := by omega
  rw [toDays, marchYear_ofMarch _ _ hm, marchMonth_ofMarch _ _ hm, day_ofMarch, e1, e2]
  omega

end CivilDate
end CatalogQuery
