import CatalogQuery.Proofs.DateComparisons
import CatalogQuery.Proofs.RangeBounds

/-!
# The last so many milliseconds

A window that ends now is compiled to a range between two instants. Its beginning is found by
arithmetic on the exact instant, and both ends are truncated only when they are written. The window
is that many milliseconds long all the same, since a whole number of milliseconds is shifted.

* `Compiler.windowStart_eq_none_iff`: when there is no beginning to tell;
* `Compiler.searchesBounds_relative`: a window is refused just then, and else both of its ends are
  read back from the query to the millisecond.
-/

namespace CatalogQuery
namespace Compiler

variable {c : Compiler} {property : Text} {millis : Int64} {now start : Instant}

/-! ## The beginning -/

/-- A beginning is so many milliseconds before now, in the years that can be told. -/
theorem windowStart_eq_some_iff (hnow : now.inLeapSecond = false) :
    windowStart millis now = some start ↔
      (millis ≠ Int64.minValue ∧
        Instant.IsTold (now.toNanos - 1000000 * millis.toInt)) ∧
        Instant.ofNanos (now.toNanos - 1000000 * millis.toInt) = start := by
  have hback : now.toNanos + 1000000 * -millis.toInt = now.toNanos - 1000000 * millis.toInt := by
    omega
  rw [windowStart, Option.ite_none_left_eq_some, Instant.plus_eq_some_iff hnow, hback, and_assoc]

/-- There is none for the one duration without an opposite, or outside of these years. -/
theorem windowStart_eq_none_iff (hnow : now.inLeapSecond = false) :
    windowStart millis now = none ↔
      millis = Int64.minValue ∨
        ¬Instant.IsTold (now.toNanos - 1000000 * millis.toInt) := by
  rw [Option.eq_none_iff_forall_ne_some]
  simp only [ne_eq, windowStart_eq_some_iff hnow]
  constructor
  · intro hnone
    by_cases hmin : millis = Int64.minValue
    · exact .inl hmin
    · exact .inr fun htold => hnone _ ⟨⟨hmin, htold⟩, rfl⟩
  · rintro (hmin | huntold) start ⟨⟨hne, htold⟩, -⟩
    · exact hne hmin
    · exact huntold htold

/-! ## The window -/

/-- A range of dates with readable bounds, in the field of the property for dates. -/
theorem searchesBounds_dateRange {lower upper : Bound} (hproperty : property ≠ [])
    {range : Text → RangeClause} (hrange : ∀ field, range field = ⟨field, lower, upper⟩)
    (hlower : lower.IsReadable) (hupper : upper.IsReadable) :
    SearchesBounds (c.schema.field property .date false) lower upper
      (c.dateRange property range) := by
  rw [dateRange_of_ne_nil hproperty, hrange]
  exact searchesBounds_text hlower hupper

theorem searchesBounds_relativeTo (hproperty : property ≠ [])
    (hstart : windowStart millis now = some start) :
    SearchesBounds (c.schema.field property .date false)
      (.inclusive start.text) (.inclusive now.text) (c.relativeTo property millis now) := by
  rw [relativeTo, hstart]
  exact searchesBounds_dateRange hproperty (fun _ => rfl) (Bound.isReadable_instant start)
    (Bound.isReadable_instant now)

/-- Nothing but the lack of a beginning is a reason to refuse a window. -/
theorem relativeTo_eq_error_iff (hproperty : property ≠ []) {e : CompileError} :
    c.relativeTo property millis now = .error e ↔
      windowStart millis now = none ∧ e = .durationOutOfRange millis.toInt := by
  cases hstart : windowStart millis now with
  | none =>
      rw [relativeTo, hstart]
      simp [eq_comm]
  | some start =>
      obtain ⟨bounds, hresult, -⟩ := searchesBounds_relativeTo (c := c) hproperty hstart
      simp [hresult]

/-- A window that ends now, outside of leap seconds, is refused as an invalid argument if and only
if the duration is the least one or the window begins outside of the years that can be told. Every
other window is a range with both of its ends. The upper one is read as now, truncated to the
millisecond, and the lower one as the instant exactly so many milliseconds before that. -/
theorem searchesBounds_relative (c : Compiler) (hproperty : property ≠ []) (millis : Int64)
    (hnow : now.inLeapSecond = false) :
    ((∃ e, (c.compile (.relative property millis now)).result = .error e ∧
        e.kind = .invalidArgument) ↔
      millis = Int64.minValue ∨ ¬Instant.IsTold (now.toNanos - 1000000 * millis.toInt)) ∧
    (millis ≠ Int64.minValue → Instant.IsTold (now.toNanos - 1000000 * millis.toInt) →
      ∃ lower upper start,
        SearchesBounds (c.schema.field property .date false) (.inclusive lower) (.inclusive upper)
          (c.compile (.relative property millis now)).result ∧
        Instant.read? upper = some now.truncated ∧
        Instant.read? lower = some start ∧
        start.inLeapSecond = false ∧
        start.toNanos = now.truncated.toNanos - 1000000 * millis.toInt) := by
  constructor
  · rw [← windowStart_eq_none_iff hnow]
    constructor
    · rintro ⟨e, herror, -⟩
      exact ((relativeTo_eq_error_iff hproperty).mp herror).1
    · intro hnone
      exact ⟨_, (relativeTo_eq_error_iff hproperty).mpr ⟨hnone, rfl⟩, rfl⟩
  · -- the ends are shifted first and truncated when they are written
    intro hmin htold
    obtain ⟨start, hstart⟩ : ∃ start, windowStart millis now = some start :=
      ⟨_, (windowStart_eq_some_iff hnow).mpr ⟨⟨hmin, htold⟩, rfl⟩⟩
    have hplus : now.plus (-millis.toInt) = some start := by
      rw [← hstart, windowStart, if_neg hmin]
    have hleap : start.inLeapSecond = false := by
      obtain ⟨-, rfl⟩ := (windowStart_eq_some_iff hnow).mp hstart
      exact Instant.inLeapSecond_ofNanos _
    have hlength := Instant.toNanos_truncated_of_plus hnow hplus
    refine ⟨start.text, now.text, start.truncated, searchesBounds_relativeTo hproperty hstart,
      ?_, ?_, ?_, ?_⟩
    · exact Instant.read?_text (Instant.wellFormed_of_inLeapSecond hnow)
    · exact Instant.read?_text (Instant.wellFormed_of_inLeapSecond hleap)
    · exact Instant.inLeapSecond_truncated hleap
    · omega

/-- From the last nanosecond of 1969 back by a negative duration: the window begins one millisecond
after it ends, at the beginning of 1970. The least duration is refused. -/
theorem searchesBounds_relative_negative :
    "modified".toList ≠ [] ∧ Instant.inLeapSecond ⟨-1, 999999999⟩ = false ∧
      (∃ e, (direct.compile
          (.relative "modified".toList Int64.minValue ⟨-1, 999999999⟩)).result = .error e ∧
        e.kind = .invalidArgument) ∧
      ∃ lower upper start,
        SearchesBounds "modified".toList (.inclusive lower) (.inclusive upper)
          (direct.compile (.relative "modified".toList (-1) ⟨-1, 999999999⟩)).result ∧
        Instant.read? upper = some ⟨-1, 999000000⟩ ∧
        Instant.read? lower = some start ∧
        start.inLeapSecond = false ∧ start.toNanos = 0 := by
  have hmodified : "modified".toList ≠ [] := by decide
  have hnow : Instant.inLeapSecond ⟨-1, 999999999⟩ = false := by decide
  have htold : Instant.IsTold (Instant.toNanos ⟨-1, 999999999⟩ - 1000000 * (-1 : Int64).toInt) :=
    Instant.isTold_iff.mpr (by decide)
  have hrefused := (searchesBounds_relative direct hmodified Int64.minValue hnow).1
  have hwindow := (searchesBounds_relative direct hmodified (-1) hnow).2
  exact ⟨hmodified, hnow, hrefused.mpr (.inl rfl), hwindow (by decide) htold⟩

example : Instant.text ⟨-1, 999999999⟩ = "1969-12-31T23:59:59.999Z".toList := by decide

end Compiler
end CatalogQuery
