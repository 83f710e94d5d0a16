import CatalogQuery.Time.Reading

/-!
# Counting nanoseconds

Outside of leap seconds an instant is as good as the number of nanoseconds since 1970: truncation
and shifts are arithmetic on that number. The years that can be told are a range of it.

* `toNanos_truncated`: a truncated instant has a whole number of milliseconds;
* `IsTold`: the range of the years that can be told;
* `plus_eq_some_iff`: a shift is by so many milliseconds, and within that range;
* `toNanos_truncated_of_plus`: truncation before a shift is truncation after it.
-/

namespace CatalogQuery
namespace Instant

variable {t u : Instant} {n : Int}

/-! ## Truncated instants -/

theorem nanos_lt_of_inLeapSecond (h : t.inLeapSecond = false) : t.nanos < secondNanos :=
  Nat.lt_of_not_le (of_decide_eq_false h)

theorem wellFormed_of_inLeapSecond (h : t.inLeapSecond = false) : t.WellFormed :=
  wellFormed_of_nanos_lt (nanos_lt_of_inLeapSecond h)

theorem inLeapSecond_truncated (h : t.inLeapSecond = false) : t.truncated.inLeapSecond = false :=
  decide_eq_false (Nat.not_le_of_lt
    (Nat.lt_of_le_of_lt (Nat.sub_le _ _) (nanos_lt_of_inLeapSecond h)))

/-- Outside of leap seconds, truncation leaves the whole milliseconds since 1970. -/
theorem toNanos_truncated (h : t.inLeapSecond = false) :
    t.truncated.toNanos = 1000000 * t.millis := by
  have hnanos := nanos_lt_of_inLeapSecond h
  unfold toNanos millis milliOfSecond truncated secondNanos at *
  dsimp only
  omega

/-- An instant lies in the millisecond that it is truncated to. -/
theorem toNanos_mem_milli (h : t.inLeapSecond = false) :
    1000000 * t.millis ≤ t.toNanos ∧ t.toNanos < 1000000 * t.millis + 1000000 := by
  have hnanos := nanos_lt_of_inLeapSecond h
  unfold toNanos millis milliOfSecond secondNanos at *
  omega

theorem truncated_eq_self (h : t.inLeapSecond = false) (hle : t.toNanos ≤ 1000000 * t.millis) :
    t.truncated = t := by
  have hnanos := nanos_lt_of_inLeapSecond h
  have hpart : t.nanos - t.nanos % 1000000 = t.nanos := by
    unfold toNanos millis milliOfSecond secondNanos at *
    omega
  rw [truncated, hpart]

/-! ## The years that can be told -/

/-- From the beginning of the year -262143 up to the beginning of the year 262143. -/
def IsTold (n : Int) : Prop :=
  (ofParts ⟨-262143, 1, 1⟩ 0 0 0 0).toNanos ≤ n ∧ n < (ofParts ⟨262143, 1, 1⟩ 0 0 0 0).toNanos

theorem toNanos_newYear (year : Int) :
    (ofParts ⟨year, 1, 1⟩ 0 0 0 0).toNanos = CivilDate.toDays ⟨year, 1, 1⟩ * 86400000000000 := by
  have hdate : CivilDate.IsDate ⟨year, 1, 1⟩ :=
    ⟨⟨Nat.le_refl 1, show 1 ≤ 12 by omega⟩, Nat.le_refl 1, show 1 ≤ 31 by omega⟩
  rw [ofParts, CivilDate.dayNumber_eq_toDays hdate]
  have hsecond : (if 0 = 60 then secondNanos else 0) = 0 := if_neg (by decide)
  rw [hsecond]
  unfold toNanos daySeconds secondNanos
  dsimp only
  omega

theorem isTold_iff : IsTold n ↔
    firstDay * 86400000000000 ≤ n ∧ n < (lastDay + 1) * 86400000000000 := by
  have hlast : CivilDate.toDays ⟨262143, 1, 1⟩ = lastDay + 1 := by decide
  rw [IsTold, toNanos_newYear, toNanos_newYear, hlast, firstDay]

/-! ## Shifts -/

theorem inLeapSecond_ofNanos (n : Int) : (ofNanos n).inLeapSecond = false := by
  have hmod : (n % 1000000000).toNat < 1000000000 := by omega
  exact decide_eq_false (Nat.not_le_of_lt hmod)

@[simp] theorem toNanos_ofNanos (n : Int) : (ofNanos n).toNanos = n := by
  unfold toNanos ofNanos secondNanos
  dsimp only
  omega

/-- A count of nanoseconds lies in the years that can be told if its day does. -/
theorem inRange_ofNanos : (ofNanos n).inRange = true ↔ IsTold n := by
  have hday : (ofNanos n).day = n / 86400000000000 := by
    unfold day ofNanos daySeconds secondNanos
    dsimp only
    omega
  rw [isTold_iff, inRange, hday, Bool.and_eq_true, decide_eq_true_eq, decide_eq_true_eq]
  omega

/-- Outside of leap seconds a shift adds up, as long as the years can be told. -/
theorem plus_eq_some_iff {millis : Int} (h : t.inLeapSecond = false) :
    t.plus millis = some u ↔
      IsTold (t.toNanos + 1000000 * millis) ∧ ofNanos (t.toNanos + 1000000 * millis) = u := by
  have hcomm : millis * 1000000 = 1000000 * millis := Int.mul_comm _ _
  rw [plus, h, if_neg Bool.false_ne_true, checked, hcomm, ← inRange_ofNanos]
  exact Option.ite_none_right_eq_some.trans (and_congr Iff.rfl Option.some_inj)

theorem toNanos_truncated_of_plus {millis : Int} (h : t.inLeapSecond = false)
    (hplus : t.plus millis = some u) :
    u.truncated.toNanos = t.truncated.toNanos + 1000000 * millis := by
  obtain ⟨-, rfl⟩ := (plus_eq_some_iff h).mp hplus
  have hstart := inLeapSecond_ofNanos (t.toNanos + 1000000 * millis)
  -- both instants lie in the milliseconds they are truncated to, and these are whole
  have hmilli := toNanos_mem_milli hstart
  have hmilli' := toNanos_mem_milli h
  rw [toNanos_ofNanos] at hmilli
  rw [toNanos_truncated hstart, toNanos_truncated h]
  omega

end Instant
end CatalogQuery
