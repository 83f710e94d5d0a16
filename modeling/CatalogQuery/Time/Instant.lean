import CatalogQuery.Decimal.Numeral
import CatalogQuery.Time.Calendar

/-!
# Points in time

An instant is a second since 1970-01-01T00:00:00 UTC and the nanoseconds after it. A count of
1000000000 nanoseconds and more lies in the leap second that follows its second; it only comes
with the last second of a minute.

* `text`: the instant in the layout of the search index, truncated to the millisecond;
* `plus`: the instant so many milliseconds later, or none outside the years that can be told;
* `millis`: the whole milliseconds since 1970, leap seconds not counted.
-/

namespace CatalogQuery

/-- A point in time. -/
structure Instant where
  seconds : Int
  nanos : Nat
  deriving DecidableEq, Repr

namespace Instant

/-- The nanoseconds of a second. -/
def secondNanos : Nat := 1000000000

/-- The seconds of a day. -/
def daySeconds : Int := 86400

/-- Does the instant lie in a leap second? -/
def inLeapSecond (t : Instant) : Bool := decide (secondNanos ≤ t.nanos)

/-- The day since 1970-01-01. -/
def day (t : Instant) : Int := t.seconds / daySeconds

/-- The second of its day. -/
def secondOfDay (t : Instant) : Nat := (t.seconds % daySeconds).toNat

/-- The whole milliseconds since the second began. -/
def milliOfSecond (t : Instant) : Nat := t.nanos % secondNanos / 1000000

/-- The whole milliseconds since 1970. -/
def millis (t : Instant) : Int := 1000 * t.seconds + t.milliOfSecond

/-! ## Text -/

/-- A year: four digits or more, signed when it is negative or has more than four. -/
def yearText (y : Int) : Text :=
  if y < 0 then '-' :: Decimal.padded 4 y.natAbs
  else if 9999 < y then '+' :: Decimal.natural y.natAbs
  else Decimal.padded 4 y.natAbs

/-- The second of a minute that is shown: a leap second is its sixtieth. -/
def shownSecond (t : Instant) : Nat := t.secondOfDay % 60 + (if t.inLeapSecond then 1 else 0)

/-- `YYYY-MM-DDTHH:MM:SS.mmmZ`, in UTC. -/
def text (t : Instant) : Text :=
  let d := CivilDate.ofDays t.day
  yearText d.year ++ '-' :: Decimal.padded 2 d.month ++ '-' :: Decimal.padded 2 d.day ++
    'T' :: Decimal.padded 2 (t.secondOfDay / 3600) ++
    ':' :: Decimal.padded 2 (t.secondOfDay / 60 % 60) ++
    ':' :: Decimal.padded 2 t.shownSecond ++
    '.' :: Decimal.padded 3 t.milliOfSecond ++ ['Z']

/-! ## Range -/

/-- The first day that can be told. -/
def firstDay : Int := CivilDate.toDays ⟨-262143, 1, 1⟩

/-- The last day that can be told. -/
def lastDay : Int := CivilDate.toDays ⟨262142, 12, 31⟩

/-- Does the instant lie in the years that can be told? -/
def inRange (t : Instant) : Bool := decide (firstDay ≤ t.day) && decide (t.day ≤ lastDay)

/-- The instant itself, if it lies in the years that can be told. -/
def checked (t : Instant) : Option Instant := if t.inRange then some t else none

/-! ## Shifts -/

/-- The instant so many nanoseconds after the beginning of 1970. -/
def ofNanos (n : Int) : Instant := ⟨n / secondNanos, (n % secondNanos).toNat⟩

/-- The nanoseconds since the beginning of 1970, leap seconds not counted. -/
def toNanos (t : Instant) : Int := t.seconds * secondNanos + t.nanos

/-- A shift from inside a leap second. It stays in that second or the one before it as long as it
does not leave them; a shift of a whole second or more back starts from the end of the leap
second, any other from the second before it. -/
def plusFromLeapSecond (t : Instant) (millis : Int) : Instant :=
  let whole := millis.tdiv 1000
  let part := millis.tmod 1000 * 1000000
  if 0 < whole ∨ (0 < part ∧ 2 * (secondNanos : Int) ≤ t.nanos + part) then
    ofNanos (toNanos ⟨t.seconds, t.nanos - secondNanos⟩ + millis * 1000000)
  else if whole < 0 then
    ofNanos (toNanos ⟨t.seconds + 1, t.nanos - secondNanos⟩ + millis * 1000000)
  else ⟨t.seconds, (t.nanos + part).toNat⟩

/-- The instant so many milliseconds later, if it lies in the years that can be told. -/
def plus (t : Instant) (millis : Int) : Option Instant :=
  checked (if t.inLeapSecond then t.plusFromLeapSecond millis
    else ofNanos (t.toNanos + millis * 1000000))

end Instant
end CatalogQuery
