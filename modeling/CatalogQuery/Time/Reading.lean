import CatalogQuery.Time.Gregorian
import CatalogQuery.Time.Instant

/-!
# Reading instants

`Instant.read?` reads the layout of the search index and nothing else: an optional sign and a year
of four digits at least, the other parts of the date and the time of day with two digits each
behind their marks, three digits of milliseconds, and the mark of UTC. The date has to be one of
the calendar, and the day is found by counting (`CivilDate.dayNumber`). Second 60 is the leap
second that follows second 59. Main statement: the text of a well-formed instant reads back as that
instant, truncated to the millisecond (`read?_text`).
-/

namespace CatalogQuery
namespace Instant

/-! ## Parts -/

/-- The digits at the front of a text as a number, when their count fits, and the rest. -/
def numberAndRest (fits : Nat → Bool) (t : Text) : Option (Nat × Text) :=
  let (digits, rest) := Decimal.digitsAndRest t
  if fits digits.length then some (Decimal.value digits, rest) else none

/-- A number of so many digits behind a mark, and the rest. -/
def numberBehind (mark : Char) (width : Nat) : Text → Option (Nat × Text)
  | [] => none
  | c :: r => if c = mark then numberAndRest (· == width) r else none

/-- The digits of a year and the rest. -/
def yearDigits (t : Text) : Option (Nat × Text) := numberAndRest (fun count => decide (4 ≤ count)) t

/-- A year, signed or not, and the rest. -/
def yearAndRest : Text → Option (Int × Text)
  | [] => none
  | c :: r =>
    if c = '-' then (yearDigits r).map fun p => (-(p.1 : Int), p.2)
    else if c = '+' then (yearDigits r).map fun p => ((p.1 : Int), p.2)
    else (yearDigits (c :: r)).map fun p => ((p.1 : Int), p.2)

/-- There is such a time of day. Any minute may have a leap second. -/
def IsTime (hour minute second : Nat) : Prop := hour < 24 ∧ minute < 60 ∧ second ≤ 60

instance (hour minute second : Nat) : Decidable (IsTime hour minute second) :=
  inferInstanceAs (Decidable (_ ∧ _))

/-- The instant of a date, a time of day and a millisecond. -/
def ofParts (date : CivilDate) (hour minute second milli : Nat) : Instant :=
  ⟨date.dayNumber * daySeconds + hour * 3600 + minute * 60 + min second 59,
    milli * 1000000 + (if second = 60 then secondNanos else 0)⟩

/-- A whole text as an instant. -/
def read? (t : Text) : Option Instant := do
  let (year, r) ← yearAndRest t
  let (month, r) ← numberBehind '-' 2 r
  let (day, r) ← numberBehind '-' 2 r
  let (hour, r) ← numberBehind 'T' 2 r
  let (minute, r) ← numberBehind ':' 2 r
  let (second, r) ← numberBehind ':' 2 r
  let (milli, r) ← numberBehind '.' 3 r
  if r = ['Z'] ∧ CivilDate.IsDate ⟨year, month, day⟩ ∧ IsTime hour minute second then
    some (ofParts ⟨year, month, day⟩ hour minute second milli)
  else none

/-- A whole text as the milliseconds since 1970. -/
def readMillis? (t : Text) : Option Int := (read? t).map millis

/-! ## Well-formed instants -/

/-- Nanoseconds stay within a second, or within the leap second after the last second of a
minute. -/
def WellFormed (t : Instant) : Prop :=
  t.nanos < 2 * secondNanos ∧ (secondNanos ≤ t.nanos → t.seconds % 60 = 59)

/-- Outside of leap seconds there is nothing else to ask for. -/
theorem wellFormed_of_nanos_lt {t : Instant} (h : t.nanos < secondNanos) : t.WellFormed := by
  unfold WellFormed secondNanos at *
  omega

/-- The instant without the part of its last millisecond. -/
def truncated (t : Instant) : Instant := ⟨t.seconds, t.nanos - t.nanos % 1000000⟩

theorem millis_truncated (t : Instant) : t.truncated.millis = t.millis := by
  unfold millis milliOfSecond truncated secondNanos
  dsimp only
  omega

/-! ## Reading back -/

variable {rest : Text}

theorem numberAndRest_padded {fits : Nat → Bool} {width n : Nat}
    (hfits : fits (Decimal.padded width n).length = true)
    (h : ∀ c ∈ rest.head?, c.isDigit = false) :
    numberAndRest fits (Decimal.padded width n ++ rest) = some (n, rest) := by
  rw [numberAndRest, Decimal.digitsAndRest_append (fun c => Decimal.isDigit_of_mem_padded) h]
  simp [hfits]

theorem numberBehind_padded (mark : Char) {width n : Nat}
    (hn : (Decimal.natural n).length ≤ width) (h : ∀ c ∈ rest.head?, c.isDigit = false) :
    numberBehind mark width (mark :: (Decimal.padded width n ++ rest)) = some (n, rest) := by
  rw [numberBehind, if_pos rfl]
  exact numberAndRest_padded (beq_iff_eq.mpr (Decimal.length_padded hn)) h

theorem yearDigits_padded (n : Nat) (h : ∀ c ∈ rest.head?, c.isDigit = false) :
    yearDigits (Decimal.padded 4 n ++ rest) = some (n, rest) :=
  numberAndRest_padded (decide_eq_true (Decimal.le_length_padded 4 n)) h

theorem yearAndRest_yearText (y : Int) (h : ∀ c ∈ rest.head?, c.isDigit = false) :
    yearAndRest (yearText y ++ rest) = some (y, rest) := by
  unfold yearText
  by_cases h1 : y < 0
  · have e : -(y.natAbs : Int) = y := by omega
    rw [if_pos h1, List.cons_append, yearAndRest, if_pos rfl, yearDigits_padded _ h]
    simp only [Option.map_some, e]
  · have e : (y.natAbs : Int) = y := by omega
    rw [if_neg h1]
    by_cases h2 : 9999 < y
    · have hm : ¬ ('+' = '-') := by decide
      have hlong : ¬(Decimal.natural y.natAbs).length ≤ 3 :=
        mt Decimal.length_natural_le_three.mp (by omega)
      rw [if_pos h2, List.cons_append, yearAndRest, if_neg hm, if_pos rfl,
        ← Decimal.padded_of_le (Nat.lt_of_not_le hlong), yearDigits_padded _ h]
      simp only [Option.map_some, e]
    · rw [if_neg h2]
      cases hd : Decimal.padded 4 y.natAbs with
      | nil => exact absurd hd (Decimal.padded_ne_nil _ _)
      | cons c r =>
          have hc : c.isDigit = true :=
            @Decimal.isDigit_of_mem_padded 4 y.natAbs c (by rw [hd]; simp)
          have h3 : c ≠ '-' := by rintro rfl; exact absurd hc (by decide)
          have h4 : c ≠ '+' := by rintro rfl; exact absurd hc (by decide)
          rw [List.cons_append, yearAndRest, if_neg h3, if_neg h4, ← List.cons_append, ← hd,
            yearDigits_padded _ h]
          simp only [Option.map_some, e]

/-- The time of day and the day make up the second. -/
theorem seconds_eq (t : Instant) :
    t.day * daySeconds + (t.secondOfDay / 3600 : Nat) * 3600 +
      (t.secondOfDay / 60 % 60 : Nat) * 60 + (t.secondOfDay % 60 : Nat) = t.seconds := by
  unfold day secondOfDay daySeconds
  omega

/-- The mark and digits of each part of a text, one after the other. -/
theorem text_eq (t : Instant) :
    t.text = yearText (CivilDate.ofDays t.day).year ++
      ('-' :: (Decimal.padded 2 (CivilDate.ofDays t.day).month ++
      ('-' :: (Decimal.padded 2 (CivilDate.ofDays t.day).day ++
      ('T' :: (Decimal.padded 2 (t.secondOfDay / 3600) ++
      (':' :: (Decimal.padded 2 (t.secondOfDay / 60 % 60) ++
      (':' :: (Decimal.padded 2 t.shownSecond ++
      ('.' :: (Decimal.padded 3 t.milliOfSecond ++ ['Z'])))))))))))) := by
  simp [text]

/-- Nothing but digits and the marks between them is in a text. -/
theorem notMem_text {c : Char} (hdigit : c.isDigit = false) (hmark : c ∉ "+-T:.Z".toList)
    (t : Instant) : c ∉ t.text := by
  have hmarks : c ≠ '+' ∧ c ≠ '-' ∧ c ≠ 'T' ∧ c ≠ ':' ∧ c ≠ '.' ∧ c ≠ 'Z' := by simpa using hmark
  have hpadded : ∀ width n, c ∉ Decimal.padded width n := fun width n hmem => by
    rw [Decimal.isDigit_of_mem_padded hmem] at hdigit
    cases hdigit
  have hyear : c ∉ yearText (CivilDate.ofDays t.day).year := by
    unfold yearText
    split
    · simp [hmarks, hpadded]
    · split
      · rw [← Decimal.padded_zero]
        simp [hmarks, hpadded]
      · exact hpadded 4 _
  rw [text_eq]
  simp [hmarks, hpadded, hyear]

theorem secondOfDay_lt (t : Instant) : t.secondOfDay < 86400 := by
  unfold secondOfDay daySeconds
  omega

theorem milliOfSecond_lt (t : Instant) : t.milliOfSecond < 1000 := by
  unfold milliOfSecond secondNanos
  omega

theorem shownSecond_le (t : Instant) : t.shownSecond ≤ 60 := by
  unfold shownSecond
  split <;> omega

/-- The parts of a text make up the instant again, but for what is less than a millisecond. -/
theorem ofParts_ofDays {t : Instant} (h : t.WellFormed) :
    ofParts (CivilDate.ofDays t.day) (t.secondOfDay / 3600) (t.secondOfDay / 60 % 60)
      t.shownSecond t.milliOfSecond = t.truncated := by
  have hseconds := seconds_eq t
  have hsecond : t.secondOfDay % 60 < 60 := Nat.mod_lt _ (by decide)
  obtain ⟨hnanos, hlast⟩ := h
  rw [ofParts, truncated, CivilDate.dayNumber_ofDays]
  by_cases hleap : secondNanos ≤ t.nanos
  · have h59 : t.secondOfDay % 60 = 59 := by
      have := hlast hleap
      unfold secondOfDay daySeconds
      omega
    have hshown : t.shownSecond = 60 := by simp [shownSecond, inLeapSecond, hleap, h59]
    rw [hshown, if_pos rfl]
    simp only [Instant.mk.injEq]
    unfold milliOfSecond secondNanos at *
    omega
  · have hshown : t.shownSecond = t.secondOfDay % 60 := by simp [shownSecond, inLeapSecond, hleap]
    rw [hshown, if_neg (by omega)]
    simp only [Instant.mk.injEq]
    unfold milliOfSecond secondNanos at *
    omega

/-- The text of an instant reads back, truncated to the millisecond. -/
theorem read?_text {t : Instant} (h : t.WellFormed) : read? t.text = some t.truncated := by
  have hdate := CivilDate.isDate_ofDays t.day
  have hmonth : (CivilDate.ofDays t.day).month < 100 := Nat.lt_of_le_of_lt hdate.1.2 (by decide)
  have hday : (CivilDate.ofDays t.day).day < 100 :=
    Nat.lt_of_le_of_lt (Nat.le_trans hdate.2.2 (CivilDate.monthDays_le _ _)) (by decide)
  have hsecondOfDay := t.secondOfDay_lt
  have hshown := t.shownSecond_le
  have htime : IsTime (t.secondOfDay / 3600) (t.secondOfDay / 60 % 60) t.shownSecond :=
    ⟨by omega, by omega, hshown⟩
  have htwo {n : Nat} (hn : n < 100) := Decimal.length_natural_le_two.mpr hn
  have hmilli := Decimal.length_natural_le_three.mpr t.milliOfSecond_lt
  have hdash : ('-').isDigit = false := by decide
  have htee : ('T').isDigit = false := by decide
  have hcolon : (':').isDigit = false := by decide
  have hpoint : ('.').isDigit = false := by decide
  have hutc : ('Z').isDigit = false := by decide
  rw [read?, text_eq, yearAndRest_yearText _ (by simp [hdash])]
  simp only [Option.bind_eq_bind, Option.bind_some]
  rw [numberBehind_padded '-' (htwo hmonth) (by simp [hdash])]
  simp only [Option.bind_some]
  rw [numberBehind_padded '-' (htwo hday) (by simp [htee])]
  simp only [Option.bind_some]
  rw [numberBehind_padded 'T' (htwo (by omega)) (by simp [hcolon])]
  simp only [Option.bind_some]
  rw [numberBehind_padded ':' (htwo (by omega)) (by simp [hcolon])]
  simp only [Option.bind_some]
  rw [numberBehind_padded ':' (htwo (by omega)) (by simp [hpoint])]
  simp only [Option.bind_some]
  rw [numberBehind_padded '.' hmilli (by simp [hutc])]
  simp only [Option.bind_some]
  rw [if_pos ⟨trivial, hdate, htime⟩]
  exact congrArg some (ofParts_ofDays h)

theorem readMillis?_text {t : Instant} (h : t.WellFormed) :
    readMillis? t.text = some t.millis := by
  rw [readMillis?, read?_text h, Option.map_some, millis_truncated]

end Instant
end CatalogQuery
