import CatalogQuery.Query.RangeClause

/-!
# Values within a range

The bounds of a range clause are texts. Once it is known which values the texts stand for, the
brackets tell which values lie within the range: a square one lets the bound itself in, a curly one
does not, and `*` lets in everything on its side.

* `RangeClause.Contains`: a value lies between two bounds;
* `RangeClause.BoundsEnclose`: a text is the bounds of a range, and just some values lie within;
* `Bound.Says`: a text stands for a value and can be read back from a range;
* `RangeClause.boundsEnclose_above` and its likes: the ranges of comparisons, in terms of the
  values that their bounds stand for.
-/

namespace CatalogQuery

variable {value? : Text → Option Int} {field lower upper t : Text} {v z : Int}

namespace Bound

/-- Does a lower bound let a value in? -/
def AllowsFrom (value? : Text → Option Int) : Bound → Int → Prop
  | inclusive t, v => ∃ z, value? t = some z ∧ z ≤ v
  | exclusive t, v => ∃ z, value? t = some z ∧ z < v
  | unbounded, _ => True

/-- Does an upper bound let a value in? -/
def AllowsTo (value? : Text → Option Int) : Bound → Int → Prop
  | inclusive t, v => ∃ z, value? t = some z ∧ v ≤ z
  | exclusive t, v => ∃ z, value? t = some z ∧ v < z
  | unbounded, _ => True

/-- A text stands for a value, and it ends where a bound does and is not the mark of none. -/
structure Says (value? : Text → Option Int) (t : Text) (z : Int) : Prop where
  value : value? t = some z
  space_notMem : ' ' ∉ t
  ne_star : t ≠ ['*']

/-- A text that reads back as a bound, and that stands for a value. -/
theorem says_of_isReadable (hvalue : value? t = some z) (h : (inclusive t).IsReadable) :
    Says value? t z where
  value := hvalue
  space_notMem := h.1
  ne_star hstar := by
    have hnone : canonical (inclusive t) = unbounded := if_pos hstar
    rw [h.2] at hnone
    cases hnone

namespace Says

variable (h : Says value? t z)
include h

theorem canonical_inclusive : canonical (inclusive t) = inclusive t := if_neg h.ne_star

theorem allowsFrom_inclusive : (inclusive t).AllowsFrom value? v ↔ z ≤ v := by
  simp [AllowsFrom, h.value]

theorem allowsFrom_exclusive : (exclusive t).AllowsFrom value? v ↔ z < v := by
  simp [AllowsFrom, h.value]

theorem allowsTo_inclusive : (inclusive t).AllowsTo value? v ↔ v ≤ z := by
  simp [AllowsTo, h.value]

theorem allowsTo_exclusive : (exclusive t).AllowsTo value? v ↔ v < z := by
  simp [AllowsTo, h.value]

end Says

end Bound

namespace RangeClause

/-- A value lies between the two bounds. -/
def Contains (value? : Text → Option Int) (r : RangeClause) (v : Int) : Prop :=
  r.lower.AllowsFrom value? v ∧ r.upper.AllowsTo value? v

/-- What stands behind a field and a colon is the bounds of a range, and the values that lie
between them are those among some. -/
def BoundsEnclose (value? : Text → Option Int) (bounds : Text) (among : Int → Prop) : Prop :=
  ∃ r, readBounds? [] bounds = some r ∧ ∀ v, r.Contains value? v ↔ among v

/-- The bounds are read as they were written, but for an inclusive `*`. -/
theorem boundsEnclose_boundsText {among : Int → Prop} (r : RangeClause)
    (hl : ' ' ∉ r.lower.text) (h : ∀ v, r.canonical.Contains value? v ↔ among v) :
    BoundsEnclose value? r.boundsText among :=
  ⟨_, readBounds?_boundsText [] r hl, h⟩

theorem boundsEnclose_above (h : Bound.Says value? t z) :
    BoundsEnclose value? (above field t).boundsText fun v => z < v := by
  refine boundsEnclose_boundsText (above field t) h.space_notMem fun v => ?_
  exact (and_iff_left trivial).trans h.allowsFrom_exclusive

theorem boundsEnclose_atLeast (h : Bound.Says value? t z) :
    BoundsEnclose value? (atLeast field t).boundsText fun v => z ≤ v := by
  refine boundsEnclose_boundsText (atLeast field t) h.space_notMem fun v => ?_
  show (Bound.canonical (.inclusive t)).AllowsFrom value? v ∧ True ↔ z ≤ v
  rw [h.canonical_inclusive, and_iff_left trivial, h.allowsFrom_inclusive]

theorem boundsEnclose_below (h : Bound.Says value? t z) :
    BoundsEnclose value? (below field t).boundsText fun v => v < z := by
  refine boundsEnclose_boundsText (below field t) (by simp [below, Bound.text]) fun v => ?_
  exact (and_iff_right trivial).trans h.allowsTo_exclusive

theorem boundsEnclose_atMost (h : Bound.Says value? t z) :
    BoundsEnclose value? (atMost field t).boundsText fun v => v ≤ z := by
  refine boundsEnclose_boundsText (atMost field t) (by simp [atMost, Bound.text]) fun v => ?_
  show True ∧ (Bound.canonical (.inclusive t)).AllowsTo value? v ↔ v ≤ z
  rw [h.canonical_inclusive, and_iff_right trivial, h.allowsTo_inclusive]

theorem boundsEnclose_between {a b : Int} (hlower : Bound.Says value? lower a)
    (hupper : Bound.Says value? upper b) :
    BoundsEnclose value? (between field lower upper).boundsText fun v => a ≤ v ∧ v ≤ b := by
  refine boundsEnclose_boundsText (between field lower upper) hlower.space_notMem fun v => ?_
  show (Bound.canonical (.inclusive lower)).AllowsFrom value? v ∧
    (Bound.canonical (.inclusive upper)).AllowsTo value? v ↔ a ≤ v ∧ v ≤ b
  rw [hlower.canonical_inclusive, hupper.canonical_inclusive, hlower.allowsFrom_inclusive,
    hupper.allowsTo_inclusive]

theorem boundsEnclose_strictlyBetween {a b : Int} (hlower : Bound.Says value? lower a)
    (hupper : Bound.Says value? upper b) :
    BoundsEnclose value? (strictlyBetween field lower upper).boundsText
      fun v => a < v ∧ v < b := by
  refine boundsEnclose_boundsText (strictlyBetween field lower upper) hlower.space_notMem
    fun v => ?_
  exact and_congr hlower.allowsFrom_exclusive hupper.allowsTo_exclusive

end RangeClause
end CatalogQuery
