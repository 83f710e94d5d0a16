import CatalogQuery.Proofs.Comparisons

/-!
# Bounds of ranges between two numbers

A range between two numbers and the two one-sided comparisons with its ends are compiled apart from
each other, each in the field for the width of a literal. What a query searches is read from its
text: a field, and the bounds behind it.

* `Compiler.SearchesBounds`: a query for the values of a field between two bounds;
* `Number.isReadable_text`: literals of every width can be read back as bounds;
* `Compiler.field_eq_of_searchesBounds`: a query with given bounds is in one field;
* `Compiler.searchesBounds_between`: a range between two numbers has the lower bound of one
  comparison and the upper bound of the other. It is in the field of the first, and in that of the
  second just if the schema has the same field for both widths
  (`Compiler.not_searchesBounds_between`).
-/

namespace CatalogQuery

/-- Literals of every width are written with the characters of numbers. -/
theorem Number.isNumeral_text (n : Number) : Decimal.IsNumeral n.text := by
  cases n with
  | short n | integer n | long n => exact Decimal.isNumeral_integer _
  | float x => exact Decimal.isNumeral_single x
  | double x => exact Decimal.isNumeral_double x

theorem Number.isReadable_text (n : Number) : (Bound.inclusive n.text).IsReadable :=
  Bound.isReadable_of_isNumeral n.isNumeral_text

namespace Compiler

variable {c : Compiler} {property field other : Text} {lower upper : Bound}
  {result : Except CompileError Fragment}

/-- A query for the values of a field between two bounds: what stands behind the field and a colon
is read as these bounds, and there is no filter. -/
def SearchesBounds (field : Text) (lower upper : Bound) (result : Except CompileError Fragment) :
    Prop :=
  ∃ bounds, result = .ok { query := clause field bounds } ∧
    RangeClause.readBounds? [] bounds = some ⟨[], lower, upper⟩

/-- A range with readable bounds searches for the values between them. -/
theorem searchesBounds_text {r : RangeClause} (hlower : r.lower.IsReadable)
    (hupper : r.upper.IsReadable) :
    SearchesBounds r.field r.lower r.upper (.ok { query := r.text }) :=
  ⟨r.boundsText, by rw [r.text_eq, clause],
    RangeClause.readBounds?_of_isReadable [] hlower hupper⟩

/-- The text of a query for the values between two bounds. -/
theorem result_of_searchesBounds (h : SearchesBounds field lower upper result) :
    result = .ok { query := (RangeClause.mk field lower upper).text } := by
  obtain ⟨bounds, hresult, hread⟩ := h
  have hbounds : (RangeClause.mk [] lower upper).boundsText = bounds :=
    RangeClause.boundsText_of_readBounds? hread
  rw [hresult, RangeClause.text_eq, clause, ← hbounds]
  rfl

/-- A query for the values between two bounds is in one field. -/
theorem field_eq_of_searchesBounds (h : SearchesBounds field lower upper result)
    (hother : SearchesBounds other lower upper result) : field = other := by
  have hsame := (result_of_searchesBounds h).symm.trans (result_of_searchesBounds hother)
  have htext : (RangeClause.mk field lower upper).text = (RangeClause.mk other lower upper).text :=
    congrArg Fragment.query (Except.ok.inj hsame)
  rw [RangeClause.text_eq, RangeClause.text_eq] at htext
  exact List.append_cancel_right htext

/-- A range of numbers with readable bounds, in the field of the property for the width. -/
theorem searchesBounds_numberRange (hproperty : property ≠ []) (type : ValueType)
    {range : Text → RangeClause} (hrange : ∀ field, range field = ⟨field, lower, upper⟩)
    (hlower : lower.IsReadable) (hupper : upper.IsReadable) :
    SearchesBounds (c.schema.field property type true) lower upper
      (c.numberRange property type range) := by
  rw [numberRange_of_ne_nil hproperty, hrange]
  exact searchesBounds_text hlower hupper

/-- The values that a query between two bounds searches for. -/
theorem searchesRange_iff_of_searchesBounds {value? : Text → Option Int} {among : Int → Prop}
    (h : SearchesBounds field lower upper result) :
    SearchesRange value? field among result ↔
      ∀ v, among v ↔ lower.AllowsFrom value? v ∧ upper.AllowsTo value? v := by
  obtain ⟨bounds, rfl, hread⟩ := h
  have hrange : SearchesRange value? field
      (fun v => lower.AllowsFrom value? v ∧ upper.AllowsTo value? v)
      (.ok { query := clause field bounds }) :=
    ⟨bounds, rfl, ⟨[], lower, upper⟩, hread, fun _ => Iff.rfl⟩
  exact hrange.iff

/-- Between two bounds a query finds what one query finds from the lower bound on and another one
finds up to the upper bound. -/
theorem searchesRange_and {value? : Text → Option Int} {among others : Int → Prop}
    {above below between : Except CompileError Fragment}
    (habove : SearchesBounds field lower .unbounded above)
    (hbelow : SearchesBounds other .unbounded upper below)
    (hbetween : SearchesBounds field lower upper between)
    (hamong : SearchesRange value? field among above)
    (hothers : SearchesRange value? other others below) :
    SearchesRange value? field (fun v => among v ∧ others v) between := by
  have hlower := (searchesRange_iff_of_searchesBounds habove).mp hamong
  have hupper := (searchesRange_iff_of_searchesBounds hbelow).mp hothers
  refine (searchesRange_iff_of_searchesBounds hbetween).mpr fun v => ?_
  exact and_congr ((hlower v).trans (and_iff_left trivial))
    ((hupper v).trans (and_iff_right trivial))

/-! ## Numbers of two widths -/

/-- The field of a property for numbers of the width of a literal. -/
def numberField (c : Compiler) (property : Text) (n : Number) : Text :=
  c.schema.field property n.valueType true

/-- A range between two numbers has the lower bound of the comparison with the first and the upper
bound of the comparison with the second, and it finds what both of them find. It is in the field of
the comparison with the first, and in the field of the comparison with the second if and only if
the schema has one field for both. -/
theorem searchesBounds_between (c : Compiler) (hproperty : property ≠ []) (first second : Number) :
    ∃ lower upper,
      SearchesBounds (c.numberField property first) lower .unbounded
        (c.compile (.compareNumber .atLeast property first)).result ∧
      SearchesBounds (c.numberField property second) .unbounded upper
        (c.compile (.compareNumber .atMost property second)).result ∧
      SearchesBounds (c.numberField property first) lower upper
        (c.compile (.betweenNumbers property first second)).result ∧
      (∀ (value? : Text → Option Int) (among others : Int → Prop),
        SearchesRange value? (c.numberField property first) among
          (c.compile (.compareNumber .atLeast property first)).result →
        SearchesRange value? (c.numberField property second) others
          (c.compile (.compareNumber .atMost property second)).result →
        SearchesRange value? (c.numberField property first) (fun v => among v ∧ others v)
          (c.compile (.betweenNumbers property first second)).result) ∧
      (SearchesBounds (c.numberField property second) lower upper
          (c.compile (.betweenNumbers property first second)).result ↔
        c.numberField property first = c.numberField property second) := by
  have hfirst := first.isReadable_text
  have hsecond := second.isReadable_text
  have habove : SearchesBounds (c.numberField property first) (.inclusive first.text) .unbounded
      (c.compile (.compareNumber .atLeast property first)).result :=
    searchesBounds_numberRange hproperty first.valueType (fun _ => rfl) hfirst
      Bound.isReadable_unbounded
  have hbelow : SearchesBounds (c.numberField property second) .unbounded (.inclusive second.text)
      (c.compile (.compareNumber .atMost property second)).result :=
    searchesBounds_numberRange hproperty second.valueType (fun _ => rfl)
      Bound.isReadable_unbounded hsecond
  have hbetween : SearchesBounds (c.numberField property first)
      (.inclusive first.text) (.inclusive second.text)
      (c.compile (.betweenNumbers property first second)).result :=
    searchesBounds_numberRange hproperty first.valueType (fun _ => rfl) hfirst hsecond
  refine ⟨.inclusive first.text, .inclusive second.text, habove, hbelow, hbetween, ?_, ?_, ?_⟩
  · intro value? among others hamong hothers
    exact searchesRange_and habove hbelow hbetween hamong hothers
  · exact fun hother => field_eq_of_searchesBounds hbetween hother
  · intro hsame
    rwa [← hsame]

/-- A compiler for an index in which the name of a field begins with the type of its values. -/
def typed : Compiler :=
  { direct with
    schema := { direct.schema with field := fun property type _ => type.name ++ '_' :: property } }

/-- Between a short number and one of double precision: two fields. -/
theorem searchesBounds_between_typed :
    "rating".toList ≠ [] ∧
    ∃ lower upper,
      SearchesBounds "short_rating".toList lower .unbounded
        (typed.compile (.compareNumber .atLeast "rating".toList (.short (-3)))).result ∧
      SearchesBounds "double_rating".toList .unbounded upper
        (typed.compile (.compareNumber .atMost "rating".toList (.double 2.5))).result ∧
      SearchesBounds "short_rating".toList lower upper
        (typed.compile
          (.betweenNumbers "rating".toList (.short (-3)) (.double 2.5))).result ∧
      ¬SearchesBounds "double_rating".toList lower upper
        (typed.compile
          (.betweenNumbers "rating".toList (.short (-3)) (.double 2.5))).result := by
  have hrating : "rating".toList ≠ [] := by decide
  have hfields : "short_rating".toList ≠ "double_rating".toList := by decide
  obtain ⟨lower, upper, habove, hbelow, hbetween, -, hother⟩ :=
    searchesBounds_between typed hrating (.short (-3)) (.double 2.5)
  exact ⟨hrating, lower, upper, habove, hbelow, hbetween, fun h => hfields (hother.mp h)⟩

/-- The two comparisons are in two fields, so that there is no field for all three queries. -/
theorem not_searchesBounds_between :
    ¬∃ field lower upper,
      SearchesBounds field lower .unbounded
        (typed.compile (.compareNumber .atLeast "rating".toList (.short 1))).result ∧
      SearchesBounds field .unbounded upper
        (typed.compile (.compareNumber .atMost "rating".toList (.long 5))).result ∧
      SearchesBounds field lower upper
        (typed.compile (.betweenNumbers "rating".toList (.short 1) (.long 5))).result := by
  rintro ⟨field, lower, upper, hfrom, hto, -⟩
  have hshort : (RangeClause.mk field lower .unbounded).text = "short_rating:[1 TO *]".toList :=
    (congrArg Fragment.query (Except.ok.inj (result_of_searchesBounds hfrom))).symm
  have hlong : (RangeClause.mk field .unbounded upper).text = "long_rating:[* TO 5]".toList :=
    (congrArg Fragment.query (Except.ok.inj (result_of_searchesBounds hto))).symm
  rw [RangeClause.text_eq] at hshort hlong
  -- the texts begin with the field, and they begin with different letters
  cases field with
  | nil => exact absurd (List.cons.inj hshort).1 (by decide)
  | cons c field =>
      have hs : c = 's' := (List.cons.inj hshort).1
      have hl : c = 'l' := (List.cons.inj hlong).1
      exact absurd (hs.symm.trans hl) (by decide)

end Compiler
end CatalogQuery
