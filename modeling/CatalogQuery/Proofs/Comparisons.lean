import CatalogQuery.Decimal.Characters
import CatalogQuery.Proofs.Made
import CatalogQuery.Query.RangeValues

/-!
# Comparisons of whole numbers

A comparison is compiled to a range. The range speaks of the literal by its text only, so what it
finds rests on two things: that the bound is the literal and has the right bracket on the right
side, and that the digits of a whole number stand for it.

* `Comparison.Holds`: how a comparison is meant;
* `Comparison.boundsEnclose_range`: within the range of a comparison lie just the values that
  compare so with the literal, however texts stand for values;
* `Bound.says_integer`: the digits of a whole number are such a text;
* `Compiler.searchesRange_of_whole?`: what is compiled from comparisons with whole numbers searches
  for just the numbers that compare so.
-/

namespace CatalogQuery

/-- A value compares so with a literal. -/
def Comparison.Holds : Comparison → (literal v : Int) → Prop
  | above, literal, v => literal < v
  | atLeast, literal, v => literal ≤ v
  | below, literal, v => v < literal
  | atMost, literal, v => v ≤ literal

instance : (how : Comparison) → (literal v : Int) → Decidable (how.Holds literal v)
  | .above, literal, v => inferInstanceAs (Decidable (literal < v))
  | .atLeast, literal, v => inferInstanceAs (Decidable (literal ≤ v))
  | .below, literal, v => inferInstanceAs (Decidable (v < literal))
  | .atMost, literal, v => inferInstanceAs (Decidable (v ≤ literal))

namespace Comparison

variable (how : Comparison)

theorem field_range (field t : Text) : (how.range field t).field = field := by
  cases how <;> rfl

/-- The bracket and the side of the bound are those of the comparison. -/
theorem boundsEnclose_range {value? : Text → Option Int} {t : Text} {z : Int}
    (h : Bound.Says value? t z) (field : Text) :
    RangeClause.BoundsEnclose value? (how.range field t).boundsText (how.Holds z) := by
  cases how with
  | above => exact RangeClause.boundsEnclose_above h
  | atLeast => exact RangeClause.boundsEnclose_atLeast h
  | below => exact RangeClause.boundsEnclose_below h
  | atMost => exact RangeClause.boundsEnclose_atMost h

end Comparison

/-! ## Whole numbers as bounds -/

/-- What is written with the characters of numbers reads back as a bound: it holds neither a space
nor a star. -/
theorem Bound.isReadable_of_isNumeral {t : Text} (h : Decimal.IsNumeral t) :
    (Bound.inclusive t).IsReadable :=
  isReadable_inclusive (h.notMem (by decide)) (h.notMem (by decide))

/-- The digits of a whole number can be a bound. -/
theorem Bound.says_integer (z : Int) : Bound.Says Decimal.integer? (Decimal.integer z) z :=
  says_of_isReadable (Decimal.integer?_integer z)
    (isReadable_of_isNumeral (Decimal.isNumeral_integer z))

theorem Number.says_of_whole? {n : Number} {z : Int} (h : n.whole? = some z) :
    Bound.Says Decimal.integer? n.text z := by
  rw [Number.text_eq_of_whole? h]
  exact Bound.says_integer z

/-! ## Compiled ranges -/

namespace Compiler

variable {c : Compiler} {property : Text}

/-- A query for the values of a field that are among some: the bounds of a range behind the field
and a colon, and no filter. -/
def SearchesRange (value? : Text → Option Int) (field : Text) (among : Int → Prop)
    (result : Except CompileError Fragment) : Prop :=
  ∃ bounds, result = .ok { query := clause field bounds } ∧
    RangeClause.BoundsEnclose value? bounds among

/-- A compiled range searches for the values that its bounds enclose. -/
theorem searchesRange_text {value? : Text → Option Int} {among : Int → Prop} {r : RangeClause}
    (h : RangeClause.BoundsEnclose value? r.boundsText among) :
    SearchesRange value? r.field among (.ok { query := r.text }) :=
  ⟨r.boundsText, by rw [r.text_eq, clause], h⟩

/-- The values that a query searches for are determined. -/
theorem SearchesRange.iff {value? : Text → Option Int} {field : Text} {among others : Int → Prop}
    {result : Except CompileError Fragment} (h : SearchesRange value? field among result) :
    SearchesRange value? field others result ↔ ∀ v, others v ↔ among v := by
  obtain ⟨bounds, rfl, r, hread, hamong⟩ := h
  constructor
  · rintro ⟨bounds', hquery, r', hread', hothers⟩ v
    have hclause : clause field bounds = clause field bounds' :=
      congrArg Fragment.query (Except.ok.inj hquery)
    obtain rfl : bounds = bounds' := by simpa [clause] using hclause
    obtain rfl : r = r' := Option.some.inj (hread.symm.trans hread')
    exact (hothers v).symm.trans (hamong v)
  · intro hsame
    exact ⟨bounds, rfl, r, hread, fun v => (hamong v).trans (hsame v).symm⟩

/-- A range of numbers or of dates is compiled when there is a property to search. -/
theorem numberRange_of_ne_nil (hproperty : property ≠ []) (type : ValueType)
    (range : Text → RangeClause) :
    c.numberRange property type range =
      .ok { query := (range (c.schema.field property type true)).text } := by
  rw [numberRange, field_of_ne_nil hproperty]
  rfl

theorem dateRange_of_ne_nil (hproperty : property ≠ []) (range : Text → RangeClause) :
    c.dateRange property range =
      .ok { query := (range (c.schema.field property .date false)).text } := by
  rw [dateRange, field_of_ne_nil hproperty]
  rfl

/-- A range of numbers is one in the field of the property for the width. -/
theorem searchesRange_numberRange {value? : Text → Option Int} {among : Int → Prop}
    (hproperty : property ≠ []) (type : ValueType) {range : Text → RangeClause}
    (hfield : ∀ field, (range field).field = field)
    (h : ∀ field, RangeClause.BoundsEnclose value? (range field).boundsText among) :
    SearchesRange value? (c.schema.field property type true) among
      (c.numberRange property type range) := by
  rw [numberRange_of_ne_nil hproperty]
  have hrange := searchesRange_text (h (c.schema.field property type true))
  rwa [hfield] at hrange

/-- A range of dates is one in the field of the property for dates. -/
theorem searchesRange_dateRange {value? : Text → Option Int} {among : Int → Prop}
    (hproperty : property ≠ []) {range : Text → RangeClause}
    (hfield : ∀ field, (range field).field = field)
    (h : ∀ field, RangeClause.BoundsEnclose value? (range field).boundsText among) :
    SearchesRange value? (c.schema.field property .date false) among
      (c.dateRange property range) := by
  rw [dateRange_of_ne_nil hproperty]
  have hrange := searchesRange_text (h (c.schema.field property .date false))
  rwa [hfield] at hrange

/-- A comparison with a literal of an integer width searches the field for that width, and there
for just the whole numbers that compare so with the value of the literal. The same is true of
two literals and the numbers from the one to the other; the lower one says which field. -/
theorem searchesRange_of_whole? (c : Compiler) (hproperty : property ≠ []) :
    (∀ (how : Comparison) (n : Number) (z : Int), n.whole? = some z →
      SearchesRange Decimal.integer? (c.schema.field property n.valueType true) (how.Holds z)
        (c.compile (.compareNumber how property n)).result) ∧
    (∀ (lower upper : Number) (a b : Int), lower.whole? = some a → upper.whole? = some b →
      SearchesRange Decimal.integer? (c.schema.field property lower.valueType true)
        (fun v => a ≤ v ∧ v ≤ b) (c.compile (.betweenNumbers property lower upper)).result) := by
  constructor
  · intro how n z hn
    have hsays := Number.says_of_whole? hn
    exact searchesRange_numberRange hproperty n.valueType
      (fun field => how.field_range field n.text) (how.boundsEnclose_range hsays)
  · intro lower upper a b hlower hupper
    have hfrom := Number.says_of_whole? hlower
    have hto := Number.says_of_whole? hupper
    exact searchesRange_numberRange hproperty lower.valueType (fun _ => rfl) fun _ =>
      RangeClause.boundsEnclose_between hfrom hto

/-- The smallest of the long numbers, which has no opposite: a range above it, and from it to one
of its neighbours. -/
theorem searchesRange_of_whole?_smallest :
    SearchesRange Decimal.integer? "rating".toList (fun v => -9223372036854775808 < v)
        (direct.compile
          (.compareNumber .above "rating".toList (.long Int64.minValue))).result ∧
      SearchesRange Decimal.integer? "rating".toList
        (fun v => -9223372036854775808 ≤ v ∧ v ≤ -9223372036854775807)
        (direct.compile (.betweenNumbers "rating".toList (.long Int64.minValue)
          (.long (-9223372036854775807)))).result := by
  have hrating : "rating".toList ≠ [] := by decide
  obtain ⟨habove, hbetween⟩ := searchesRange_of_whole? direct hrating
  exact ⟨habove .above (.long Int64.minValue) _ rfl,
    hbetween (.long Int64.minValue) (.long (-9223372036854775807)) _ _ rfl rfl⟩

end Compiler
end CatalogQuery
