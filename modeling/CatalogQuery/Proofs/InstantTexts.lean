import CatalogQuery.Time.Reading

/-!
# Texts of instants

A text tells an instant to the millisecond, no more and no less. The parts of a millisecond are
dropped from the end of it, so that an instant before 1970 is truncated downwards like any other,
and a leap second is told apart from the second before it.

* `Instant.eq_of_truncated_eq`: what is left of an instant when it is truncated;
* `Instant.reads_and_text_eq_iff`: the text reads back as the truncated instant, and two instants
  have the same text just if they agree in what is left.
-/

namespace CatalogQuery
namespace Instant

variable {t u : Instant}

/-- Truncated instants agree in the second, in being in a leap second, and in the millisecond. -/
theorem eq_of_truncated_eq (h : t.truncated = u.truncated) :
    t.seconds = u.seconds ∧ t.inLeapSecond = u.inLeapSecond ∧
      t.milliOfSecond = u.milliOfSecond := by
  obtain ⟨hseconds, hnanos⟩ := Instant.mk.inj h
  refine ⟨hseconds, ?_, ?_⟩
  · unfold inLeapSecond secondNanos
    rw [decide_eq_decide]
    omega
  · unfold milliOfSecond secondNanos
    omega

/-- A text is made of the second, whether that is a leap second, and the millisecond. -/
theorem text_congr (hseconds : t.seconds = u.seconds) (hleap : t.inLeapSecond = u.inLeapSecond)
    (hmilli : t.milliOfSecond = u.milliOfSecond) : t.text = u.text := by
  have hday : t.day = u.day := by rw [day, day, hseconds]
  have hsecond : t.secondOfDay = u.secondOfDay := by rw [secondOfDay, secondOfDay, hseconds]
  have hshown : t.shownSecond = u.shownSecond := by rw [shownSecond, shownSecond, hsecond, hleap]
  rw [text_eq, text_eq, hday, hsecond, hshown, hmilli]

/-- The text of an instant reads back as that instant truncated to the millisecond, and so the
texts of two instants are the same just if the instants are in the same second, both or none of
them in a leap second, and in the same millisecond of it. -/
theorem reads_and_text_eq_iff (ht : t.WellFormed) (hu : u.WellFormed) :
    read? t.text = some t.truncated ∧
      (t.text = u.text ↔ t.seconds = u.seconds ∧ t.inLeapSecond = u.inLeapSecond ∧
        t.milliOfSecond = u.milliOfSecond) := by
  refine ⟨read?_text ht, fun h => ?_, fun ⟨hseconds, hleap, hmilli⟩ => ?_⟩
  · have hread : read? t.text = some u.truncated := by rw [h, read?_text hu]
    exact eq_of_truncated_eq (Option.some.inj ((read?_text ht).symm.trans hread))
  · exact text_congr hseconds hleap hmilli

/-- In the leap second at the end of 2016. -/
theorem reads_and_text_eq_iff_leapSecond :
    WellFormed ⟨1483228799, 1500000001⟩ ∧ WellFormed ⟨1483228799, 1500999999⟩ ∧
      read? (text ⟨1483228799, 1500000001⟩) = some ⟨1483228799, 1500000000⟩ ∧
      text ⟨1483228799, 1500000001⟩ = text ⟨1483228799, 1500999999⟩ := by
  have ht : WellFormed ⟨1483228799, 1500000001⟩ := ⟨by decide, fun _ => by decide⟩
  have hu : WellFormed ⟨1483228799, 1500999999⟩ := ⟨by decide, fun _ => by decide⟩
  obtain ⟨hread, hsame⟩ := reads_and_text_eq_iff ht hu
  exact ⟨ht, hu, hread, hsame.mpr ⟨rfl, by decide, by decide⟩⟩

example : text ⟨1483228799, 1500000001⟩ = "2016-12-31T23:59:60.500Z".toList := by decide

end Instant
end CatalogQuery
