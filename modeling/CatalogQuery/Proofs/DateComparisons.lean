import CatalogQuery.Proofs.Comparisons
import CatalogQuery.Time.Nanos

/-!
# Comparisons of dates

The index holds instants in whole milliseconds, a literal may be any instant, and the bound of a
range is the literal truncated to the millisecond. Whether that makes a difference hangs on the
comparison: every whole millisecond after the truncated instant is after the instant itself, but
the truncated instant is not before itself and may be before the instant.

* `Comparison.effective`: the literal that a comparison goes by;
* `Comparison.Meant`, `Comparison.Found`: the values that compare so with the literals as given, and
  with those the comparisons go by;
* `Predicate.dateComparisons?`: the comparisons that a predicate on dates stands for;
* `Compiler.searchesRange_of_dateComparisons`: what is compiled from such a predicate searches for
  the values that are found. They are those that are meant just if no comparison goes by another
  literal, or if nothing is meant or found (`Compiler.not_searchesRange_before`).
-/

namespace CatalogQuery

/-- The text of an instant reads back as a bound: it holds neither a space nor a star. -/
theorem Bound.isReadable_instant (t : Instant) : (Bound.inclusive t.text).IsReadable :=
  isReadable_inclusive (t.notMem_text (by decide) (by decide))
    (t.notMem_text (by decide) (by decide))

theorem Bound.says_instant {t : Instant} (h : t.inLeapSecond = false) :
    Bound.Says Instant.readMillis? t.text t.millis :=
  says_of_isReadable (Instant.readMillis?_text (Instant.wellFormed_of_inLeapSecond h))
    (isReadable_instant t)

/-! ## Comparisons with an instant -/

namespace Comparison

/-- A whole number of milliseconds since 1970 compares so with an instant. -/
def HoldsAt (how : Comparison) (literal : Instant) (v : Int) : Prop :=
  how.Holds literal.toNanos (1000000 * v)

instance (how : Comparison) (literal : Instant) (v : Int) : Decidable (how.HoldsAt literal v) :=
  inferInstanceAs (Decidable (how.Holds _ _))

/-- The literal that a comparison goes by: for a lower bound that belongs to the range, and an upper
one that does not, the truncated literal. -/
def effective : Comparison → Instant → Instant
  | above, literal => literal
  | atLeast, literal => literal.truncated
  | below, literal => literal.truncated
  | atMost, literal => literal

variable {literal : Instant} {v : Int}

/-- To compare so with that literal is to compare so with the whole milliseconds of the literal. -/
theorem holdsAt_effective (how : Comparison) (h : literal.inLeapSecond = false) :
    how.HoldsAt (how.effective literal) v ↔ how.Holds literal.millis v := by
  have htruncated := Instant.toNanos_truncated h
  have hmilli := Instant.toNanos_mem_milli h
  cases how with
  | above =>
      show literal.toNanos < 1000000 * v ↔ literal.millis < v
      omega
  | atLeast =>
      show literal.truncated.toNanos ≤ 1000000 * v ↔ literal.millis ≤ v
      omega
  | below =>
      show 1000000 * v < literal.truncated.toNanos ↔ v < literal.millis
      omega
  | atMost =>
      show 1000000 * v ≤ literal.toNanos ↔ v ≤ literal.millis
      omega

/-! ## Several comparisons at once -/

/-- A value compares with each of some literals as it is said. -/
def Meant (sides : List (Comparison × Instant)) (v : Int) : Prop :=
  ∀ side ∈ sides, side.1.HoldsAt side.2 v

/-- A value compares so with the literals that the comparisons go by. -/
def Found (sides : List (Comparison × Instant)) (v : Int) : Prop :=
  ∀ side ∈ sides, side.1.HoldsAt (side.1.effective side.2) v

variable {how other : Comparison} {first second : Instant}

/-- Something is true of both of two sides. -/
theorem forall_mem_sides {holds : Comparison × Instant → Prop} {a b : Comparison × Instant} :
    (∀ side ∈ [a, b], holds side) ↔ holds a ∧ holds b :=
  List.forall_mem_cons.trans (and_congr Iff.rfl List.forall_mem_singleton)

theorem meant_single : Meant [(how, first)] v ↔ how.HoldsAt first v :=
  List.forall_mem_singleton

theorem meant_pair :
    Meant [(how, first), (other, second)] v ↔ how.HoldsAt first v ∧ other.HoldsAt second v :=
  forall_mem_sides

/-- What is found is told by the whole milliseconds of a literal. -/
theorem found_single (h : first.inLeapSecond = false) :
    Found [(how, first)] v ↔ how.Holds first.millis v :=
  List.forall_mem_singleton.trans (how.holdsAt_effective h)

theorem found_pair (h : first.inLeapSecond = false) (h' : second.inLeapSecond = false) :
    Found [(how, first), (other, second)] v ↔
      how.Holds first.millis v ∧ other.Holds second.millis v :=
  forall_mem_sides.trans (and_congr (how.holdsAt_effective h) (other.holdsAt_effective h'))

/-- Where no comparison goes by another literal, there is no difference. -/
theorem meant_iff_found_of_effective {sides : List (Comparison × Instant)}
    (h : ∀ side ∈ sides, side.1.effective side.2 = side.2) : Meant sides v ↔ Found sides v :=
  forall₂_congr fun side hside => by rw [h side hside]

/-- Against a single literal a difference shows at the truncated literal itself. -/
theorem effective_eq_of_single (h : first.inLeapSecond = false)
    (hsame : ∀ v, Meant [(how, first)] v ↔ Found [(how, first)] v) :
    how.effective first = first := by
  have hmillis := hsame first.millis
  rw [meant_single, found_single h] at hmillis
  cases how with
  | above => rfl
  | atMost => rfl
  | atLeast =>
      have hmeant : first.toNanos ≤ 1000000 * first.millis := hmillis.mpr (Int.le_refl _)
      exact Instant.truncated_eq_self h hmeant
  | below =>
      have hmeant : ¬1000000 * first.millis < first.toNanos :=
        fun hbefore => Int.lt_irrefl _ (hmillis.mp hbefore)
      exact Instant.truncated_eq_self h (Int.not_lt.mp hmeant)

/-- Between two literals a difference shows at the lower one, truncated, if anything is found. -/
theorem effective_eq_of_between (h : first.inLeapSecond = false)
    (h' : second.inLeapSecond = false)
    (hsame : ∀ v, Meant [(.atLeast, first), (.atMost, second)] v ↔
      Found [(.atLeast, first), (.atMost, second)] v) :
    first.truncated = first ∨ ∀ v, ¬Found [(.atLeast, first), (.atMost, second)] v := by
  by_cases hfound : Found [(.atLeast, first), (.atMost, second)] first.millis
  · left
    have hmeant : first.toNanos ≤ 1000000 * first.millis :=
      (meant_pair.mp ((hsame first.millis).mpr hfound)).1
    exact Instant.truncated_eq_self h hmeant
  · -- a range that leaves out its own lower end has nothing in it
    right
    intro v hv
    obtain ⟨hfrom, hto⟩ := (found_pair h h').mp hv
    have hle : first.millis ≤ second.millis := Int.le_trans hfrom hto
    exact hfound ((found_pair h h').mpr ⟨Int.le_refl _, hle⟩)

/-- Strictly between two literals a difference shows at the upper one, truncated, unless even that
one is too early. -/
theorem effective_eq_of_during (h : first.inLeapSecond = false)
    (h' : second.inLeapSecond = false)
    (hsame : ∀ v, Meant [(.above, first), (.below, second)] v ↔
      Found [(.above, first), (.below, second)] v) :
    second.truncated = second ∨ ∀ v, ¬Found [(.above, first), (.below, second)] v := by
  -- the truncated end is never found, so it must not be meant either
  have hmeant : ¬Meant [(.above, first), (.below, second)] second.millis := fun hmeant =>
    Int.lt_irrefl _ ((found_pair h h').mp ((hsame second.millis).mp hmeant)).2
  by_cases hbefore : 1000000 * second.millis < second.toNanos
  · right
    intro v hv
    obtain ⟨hfrom, hto⟩ := (found_pair h h').mp hv
    have hmilli := Instant.toNanos_mem_milli h
    have hafter : first.toNanos < 1000000 * second.millis := by
      have hlt : first.millis < second.millis := Int.lt_trans hfrom hto
      omega
    exact hmeant (meant_pair.mpr ⟨hafter, hbefore⟩)
  · left
    exact Instant.truncated_eq_self h' (Int.not_lt.mp hbefore)

end Comparison

/-! ## Compiled comparisons -/

/-- The property that a predicate is about, and the comparisons with instants that it stands for,
all of which are to hold. -/
def Predicate.dateComparisons? : Predicate → Option (Text × List (Comparison × Instant))
  | compareDate how p d => some (p, [(how, d)])
  | before p d => some (p, [(.below, d)])
  | after p d => some (p, [(.above, d)])
  | betweenDates p lower upper => some (p, [(.atLeast, lower), (.atMost, upper)])
  | during p start stop => some (p, [(.above, start), (.below, stop)])
  | _ => none

namespace Compiler

open Comparison

variable {c : Compiler} {p : Predicate} {property : Text} {sides : List (Comparison × Instant)}

/-- There are three shapes: a single comparison, a range with both ends, and one without them. -/
theorem cases_of_dateComparisons? (h : p.dateComparisons? = some (property, sides)) :
    (∃ how date, sides = [(how, date)] ∧
        ∀ c : Compiler, (c.compile p).result = c.compareDate how property date) ∨
      (∃ lower upper, sides = [(.atLeast, lower), (.atMost, upper)] ∧
        ∀ c : Compiler, (c.compile p).result = c.betweenDates property lower upper) ∨
      (∃ start stop, sides = [(.above, start), (.below, stop)] ∧
        ∀ c : Compiler, (c.compile p).result = c.during property start stop) := by
  cases p with
  | compareDate how p d =>
      obtain ⟨rfl, rfl⟩ := Prod.mk.inj (Option.some.inj h)
      exact .inl ⟨how, d, rfl, fun _ => rfl⟩
  | before p d =>
      obtain ⟨rfl, rfl⟩ := Prod.mk.inj (Option.some.inj h)
      exact .inl ⟨.below, d, rfl, fun _ => rfl⟩
  | after p d =>
      obtain ⟨rfl, rfl⟩ := Prod.mk.inj (Option.some.inj h)
      exact .inl ⟨.above, d, rfl, fun _ => rfl⟩
  | betweenDates p lower upper =>
      obtain ⟨rfl, rfl⟩ := Prod.mk.inj (Option.some.inj h)
      exact .inr (.inl ⟨lower, upper, rfl, fun _ => rfl⟩)
  | during p start stop =>
      obtain ⟨rfl, rfl⟩ := Prod.mk.inj (Option.some.inj h)
      exact .inr (.inr ⟨start, stop, rfl, fun _ => rfl⟩)
  | _ => cases h

/-- The bounds are the literals without the parts of their last millisecond, and the brackets are
those of the comparisons. -/
theorem searchesRange_found (c : Compiler) (h : p.dateComparisons? = some (property, sides))
    (hproperty : property ≠ []) (hsides : ∀ side ∈ sides, side.2.inLeapSecond = false) :
    SearchesRange Instant.readMillis? (c.schema.field property .date false) (Found sides)
      (c.compile p).result := by
  obtain ⟨how, date, rfl, hresult⟩ | ⟨lower, upper, rfl, hresult⟩ | ⟨start, stop, rfl, hresult⟩ :=
    cases_of_dateComparisons? h
  · have hdate : date.inLeapSecond = false := hsides _ (List.mem_singleton_self _)
    have htext := Bound.says_instant hdate
    have hrange := searchesRange_dateRange (c := c) hproperty
      (fun field => how.field_range field date.text) (how.boundsEnclose_range htext)
    rw [hresult]
    exact hrange.iff.mpr fun v => found_single hdate
  · obtain ⟨hlower, hupper⟩ := forall_mem_sides.mp hsides
    have hfrom := Bound.says_instant hlower
    have hto := Bound.says_instant hupper
    have hrange := searchesRange_dateRange (c := c) hproperty (fun _ => rfl) fun _ =>
      RangeClause.boundsEnclose_between hfrom hto
    rw [hresult]
    exact hrange.iff.mpr fun v => found_pair hlower hupper
  · obtain ⟨hstart, hstop⟩ := forall_mem_sides.mp hsides
    have hfrom := Bound.says_instant hstart
    have hto := Bound.says_instant hstop
    have hrange := searchesRange_dateRange (c := c) hproperty (fun _ => rfl) fun _ =>
      RangeClause.boundsEnclose_strictlyBetween hfrom hto
    rw [hresult]
    exact hrange.iff.mpr fun v => found_pair hstart hstop

/-- What is found and what is meant are the same values just if every comparison goes by the
literal as given, or if there are none of them. -/
theorem meant_iff_found (h : p.dateComparisons? = some (property, sides))
    (hsides : ∀ side ∈ sides, side.2.inLeapSecond = false) :
    (∀ v, Meant sides v ↔ Found sides v) ↔
      (∀ side ∈ sides, side.1.effective side.2 = side.2) ∨
        ∀ v, ¬Meant sides v ∧ ¬Found sides v := by
  constructor
  · intro hsame
    have hnone (hfound : ∀ v, ¬Found sides v) : ∀ v, ¬Meant sides v ∧ ¬Found sides v :=
      fun v => ⟨fun hmeant => hfound v ((hsame v).mp hmeant), hfound v⟩
    obtain ⟨how, date, rfl, -⟩ | ⟨lower, upper, rfl, -⟩ | ⟨start, stop, rfl, -⟩ :=
      cases_of_dateComparisons? h
    · have hdate : date.inLeapSecond = false := hsides _ (List.mem_singleton_self _)
      exact .inl (List.forall_mem_singleton.mpr (effective_eq_of_single hdate hsame))
    · obtain ⟨hlower, hupper⟩ := forall_mem_sides.mp hsides
      refine (effective_eq_of_between hlower hupper hsame).imp (fun heq => ?_) hnone
      exact forall_mem_sides.mpr ⟨heq, rfl⟩
    · obtain ⟨hstart, hstop⟩ := forall_mem_sides.mp hsides
      refine (effective_eq_of_during hstart hstop hsame).imp (fun heq => ?_) hnone
      exact forall_mem_sides.mpr ⟨rfl, heq⟩
  · rintro (heffective | hnone) v
    · exact meant_iff_found_of_effective heffective
    · exact iff_of_false (hnone v).1 (hnone v).2

/-- What is compiled from comparisons with instants searches the field of the property for dates
for the values that compare so with the literals the comparisons go by. It searches for the values
that compare so with the literals as given if and only if these are the same literals, or else
there is no value at all that is meant or found. -/
theorem searchesRange_of_dateComparisons (c : Compiler)
    (h : p.dateComparisons? = some (property, sides)) (hproperty : property ≠ [])
    (hsides : ∀ side ∈ sides, side.2.inLeapSecond = false) :
    SearchesRange Instant.readMillis? (c.schema.field property .date false) (Found sides)
        (c.compile p).result ∧
      (SearchesRange Instant.readMillis? (c.schema.field property .date false) (Meant sides)
          (c.compile p).result ↔
        (∀ side ∈ sides, side.1.effective side.2 = side.2) ∨
          ∀ v, ¬Meant sides v ∧ ¬Found sides v) := by
  have hfound := searchesRange_found c h hproperty hsides
  exact ⟨hfound, hfound.iff.trans (meant_iff_found h hsides)⟩

/-- Strictly between two instants of one second, both with a part of a millisecond: the values
lie from the first whole millisecond after the one up to the other, and this last one is lost. -/
theorem searchesRange_of_dateComparisons_during :
    (Predicate.during "created".toList ⟨1704067200, 1500000⟩ ⟨1704067200, 4500000⟩).dateComparisons?
        = some ("created".toList,
          [(.above, ⟨1704067200, 1500000⟩), (.below, ⟨1704067200, 4500000⟩)]) ∧
      "created".toList ≠ [] ∧
      SearchesRange Instant.readMillis? "created".toList
        (Found [(.above, ⟨1704067200, 1500000⟩), (.below, ⟨1704067200, 4500000⟩)])
        (direct.compile
          (.during "created".toList ⟨1704067200, 1500000⟩ ⟨1704067200, 4500000⟩)).result ∧
      ¬SearchesRange Instant.readMillis? "created".toList
        (Meant [(.above, ⟨1704067200, 1500000⟩), (.below, ⟨1704067200, 4500000⟩)])
        (direct.compile
          (.during "created".toList ⟨1704067200, 1500000⟩ ⟨1704067200, 4500000⟩)).result := by
  have hcreated : "created".toList ≠ [] := by decide
  obtain ⟨hfound, hmeant⟩ := searchesRange_of_dateComparisons direct
    (p := .during "created".toList ⟨1704067200, 1500000⟩ ⟨1704067200, 4500000⟩) rfl hcreated
    (forall_mem_sides.mpr ⟨by decide, by decide⟩)
  refine ⟨rfl, hcreated, hfound, fun hexact => ?_⟩
  have hlast : Meant [(.above, ⟨1704067200, 1500000⟩), (.below, ⟨1704067200, 4500000⟩)]
      1704067200004 := meant_pair.mpr ⟨by decide, by decide⟩
  rcases hmeant.mp hexact with heffective | hnone
  · exact absurd (heffective _ (List.mem_cons_of_mem _ (List.mem_singleton_self _))) (by decide)
  · exact (hnone 1704067200004).1 hlast

/-- Half a millisecond into 2024, the first whole millisecond of the year is before that instant,
but not in the range before it. -/
theorem not_searchesRange_before :
    ¬SearchesRange Instant.readMillis? "created".toList
      (Meant [(.below, ⟨1704067200, 500000⟩)])
      (direct.compile (.before "created".toList ⟨1704067200, 500000⟩)).result := by
  intro hexact
  have hleap : Instant.inLeapSecond ⟨1704067200, 500000⟩ = false := by decide
  have hfound : SearchesRange Instant.readMillis? "created".toList
      (Found [(.below, ⟨1704067200, 500000⟩)])
      (direct.compile (.before "created".toList ⟨1704067200, 500000⟩)).result :=
    searchesRange_found direct rfl (by decide) (List.forall_mem_singleton.mpr hleap)
  have hfirst : Meant [(.below, ⟨1704067200, 500000⟩)] 1704067200000 :=
    meant_single.mpr (by decide)
  have hlost := (found_single hleap).mp ((hfound.iff.mp hexact 1704067200000).mp hfirst)
  exact absurd hlost (by decide)

end Compiler
end CatalogQuery
