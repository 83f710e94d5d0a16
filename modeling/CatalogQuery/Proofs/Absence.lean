import CatalogQuery.Proofs.Made
import CatalogQuery.Query.Meaning

/-!
# Properties without a value

A property may be held by several fields. The search for documents without a value of it has one
part for each field, which leaves out the documents with a value in that field, and is the
disjunction of these parts: it finds the documents in which some field holds no value.

* `Interpretation.ReadsAbsence`: such a query is read part by part, and there is such a reading
  whatever the fields hold (`Interpretation.readsAbsence_byFields`);
* `Compiler.matches_isNull_iff`: so a document is found just if some field holds no value in it. For
  a property with one field this says that no field does, and for no other;
* `Compiler.not_matches_isNull`: with two fields, a document is found that has a value in one.
-/

namespace CatalogQuery

variable {Doc : Type} {holds : Text → Doc → Prop} {property : Text} {fields : List Text}

/-! ## Texts of the search -/

theorem RangeClause.text_anyValue (field : Text) :
    (RangeClause.anyValue field).text = (field ++ ":[* TO *".toList) ++ [']'] := by
  simp [RangeClause.text, RangeClause.anyValue, Bound.text, Bound.opening, Bound.closing,
    Bound.isExclusive]

theorem RangeClause.text_anyValue_inj {a b : Text} :
    (RangeClause.anyValue a).text = (RangeClause.anyValue b).text ↔ a = b := by
  simp [text_anyValue]

namespace Compiler

theorem absence_inj {a b : Text} : absence a = absence b ↔ a = b := by
  rw [absence, absence, List.append_left_inj, List.append_right_inj,
    RangeClause.text_anyValue_inj]

/-- A search for any value ends with a bracket, not with a parenthesis. -/
theorem text_anyValue_ne (a t : Text) : (RangeClause.anyValue a).text ≠ t ++ [')'] := by
  intro h
  rw [RangeClause.text_anyValue] at h
  exact absurd (List.append_inj_right' h rfl) (by decide)

theorem text_anyValue_ne_absence (a b : Text) : (RangeClause.anyValue a).text ≠ absence b :=
  text_anyValue_ne a _

theorem text_anyValue_ne_group (a word : Text) (parts : List Text) :
    (RangeClause.anyValue a).text ≠ Connective.group word parts :=
  text_anyValue_ne a _

/-- A group of these searches begins with two parentheses, or has none of them. -/
theorem absence_ne_group (a word : Text) (fields : List Text) :
    absence a ≠ Connective.group word (fields.map absence) := by
  intro h
  cases fields with
  | nil => cases h
  | cons x fields =>
      cases fields with
      | nil => cases h
      | cons y fields => cases h

end Compiler

/-! ## Reading the search -/

namespace Interpretation

/-- The query language reads the search so: `field:[* TO *]` finds the documents in which the field
holds a value, `(*:* -c)` those that `c` does not find, and a disjunction what one of its members
finds. -/
structure ReadsAbsence (i : Interpretation Doc) (holds : Text → Doc → Prop) (fields : List Text) :
    Prop where
  anyValue : ∀ x ∈ fields, ∀ d, i.query (RangeClause.anyValue x).text d ↔ holds x d
  without : ∀ x ∈ fields, ∀ d,
    i.query (Compiler.absence x) d ↔ ¬ i.query (RangeClause.anyValue x).text d
  union : i.ReadsQueries .or (fields.map Compiler.absence)

/-- A reading of just these texts. -/
def byFields (holds : Text → Doc → Prop) (fields : List Text) : Interpretation Doc where
  query t d :=
    (∃ x, t = (RangeClause.anyValue x).text ∧ holds x d) ∨
    (∃ x, t = Compiler.absence x ∧ ¬ holds x d) ∨
    (t = Connective.group Connective.or.keyword (fields.map Compiler.absence) ∧
      ∃ x ∈ fields, ¬ holds x d)
  path _ _ := True

theorem query_anyValue_byFields (x : Text) (d : Doc) :
    (byFields holds fields).query (RangeClause.anyValue x).text d ↔ holds x d := by
  simp only [byFields, RangeClause.text_anyValue_inj, Compiler.text_anyValue_ne_absence,
    Compiler.text_anyValue_ne_group, false_and, exists_false, or_false, exists_eq_left']

theorem query_absence_byFields (x : Text) (d : Doc) :
    (byFields holds fields).query (Compiler.absence x) d ↔ ¬ holds x d := by
  simp only [byFields, (Compiler.text_anyValue_ne_absence _ x).symm, Compiler.absence_inj,
    Compiler.absence_ne_group, false_and, exists_false, or_false, false_or, exists_eq_left']

theorem query_group_byFields (d : Doc) :
    (byFields holds fields).query
      (Connective.group Connective.or.keyword (fields.map Compiler.absence)) d ↔
        ∃ x ∈ fields, ¬ holds x d := by
  simp only [byFields, (Compiler.text_anyValue_ne_group _ _ _).symm,
    (Compiler.absence_ne_group _ _ _).symm, false_and, exists_false, true_and, false_or]

/-- Whatever the fields hold, the search can be read so. -/
theorem readsAbsence_byFields (holds : Text → Doc → Prop) (fields : List Text) :
    (byFields holds fields).ReadsAbsence holds fields where
  anyValue x _ d := query_anyValue_byFields x d
  without x _ d := by rw [query_absence_byFields, query_anyValue_byFields]
  union d := by
    rw [query_group_byFields, List.map_map, Connective.holds_or_map]
    simp only [Function.comp_apply, query_absence_byFields]

end Interpretation

/-! ## What the search finds -/

namespace Compiler

variable {c : Compiler}

/-- The query of the search. A single part stands by itself. -/
def absenceQuery : List Text → Text
  | [x] => absence x
  | xs => Connective.group Connective.or.keyword (xs.map absence)

theorem result_isNull (hne : property ≠ []) (hvariants : c.schema.variants property = some fields)
    (hfields : fields ≠ []) :
    (c.compile (.isNull property)).result = .ok { query := absenceQuery fields } := by
  obtain ⟨x, xs, rfl⟩ := List.exists_cons_of_ne_nil hfields
  have hvariant : c.variantFields property = .ok (x :: xs) := by
    rw [variantFields, if_neg hne, hvariants]
  show c.isNull property = _
  rw [isNull, hvariant]
  cases xs with
  | nil => rfl
  | cons y xs => rfl

theorem query_absence_iff {i : Interpretation Doc} (hi : i.ReadsAbsence holds fields)
    {x : Text} (hx : x ∈ fields) (d : Doc) : i.query (absence x) d ↔ ¬ holds x d := by
  rw [hi.without x hx, hi.anyValue x hx]

theorem query_absenceQuery_iff {i : Interpretation Doc} (hi : i.ReadsAbsence holds fields)
    (d : Doc) : i.query (absenceQuery fields) d ↔ ∃ x ∈ fields, ¬ holds x d := by
  unfold absenceQuery
  split
  · next x =>
    rw [query_absence_iff hi (List.mem_singleton_self x)]
    simp
  · rw [hi.union d, List.map_map, Connective.holds_or_map]
    exact exists_congr fun x => and_congr_right fun hx => query_absence_iff hi hx d

theorem matches_absenceQuery_iff {i : Interpretation Doc} (hi : i.ReadsAbsence holds fields)
    (d : Doc) :
    Fragment.Matches i { query := absenceQuery fields } d ↔ ∃ x ∈ fields, ¬ holds x d := by
  rw [Fragment.Matches, query_absenceQuery_iff hi]
  exact and_iff_left fun _ h => absurd h List.not_mem_nil

/-- Of two fields one may hold a value: the other one makes the search find the document. -/
theorem exists_matches_of_ne {x y : Text} (hy : y ∈ fields) (hxy : x ≠ y) :
    ∃ (i : Interpretation Unit) (holds : Text → Unit → Prop), i.ReadsAbsence holds fields ∧
      Fragment.Matches i { query := absenceQuery fields } () ∧ holds x () := by
  have hread := Interpretation.readsAbsence_byFields (fun field (_ : Unit) => field = x) fields
  have hfound := (matches_absenceQuery_iff hread ()).mpr ⟨y, hy, fun h => hxy h.symm⟩
  exact ⟨_, _, hread, hfound, rfl⟩

/-- The search for documents without a value of a property finds those in which some field of the
property holds none. It finds just those in which no field does if and only if all fields are the
same. -/
theorem matches_isNull_iff (hne : property ≠ [])
    (hvariants : c.schema.variants property = some fields) (hfields : fields ≠ []) :
    ∃ f, (c.compile (.isNull property)).result = .ok f ∧
      (∀ (Doc : Type) (i : Interpretation Doc) (holds : Text → Doc → Prop),
        i.ReadsAbsence holds fields → ∀ d, f.Matches i d ↔ ∃ x ∈ fields, ¬ holds x d) ∧
      ((∀ (Doc : Type) (i : Interpretation Doc) (holds : Text → Doc → Prop),
        i.ReadsAbsence holds fields → ∀ d, f.Matches i d ↔ ∀ x ∈ fields, ¬ holds x d) ↔
          ∀ x ∈ fields, ∀ y ∈ fields, x = y) := by
  refine ⟨_, result_isNull hne hvariants hfields, ?_, ?_⟩
  · intro Doc i holds hi d
    exact matches_absenceQuery_iff hi d
  · constructor
    · intro hall x hx y hy
      by_cases hxy : x = y
      · exact hxy
      · obtain ⟨i, holds, hi, hfound, hvalue⟩ := exists_matches_of_ne hy hxy
        exact absurd hvalue ((hall Unit i holds hi ()).mp hfound x hx)
    · intro hsame Doc i holds hi d
      rw [matches_absenceQuery_iff hi d]
      constructor
      · rintro ⟨x, hx, hnone⟩ y hy
        rw [hsame y hy x hx]
        exact hnone
      · intro hall
        obtain ⟨x, hx⟩ := List.exists_mem_of_ne_nil fields hfields
        exact ⟨x, hx, hall x hx⟩

/-- A compiler for an index in which every property has a field for numbers and one for words. -/
def twofold : Compiler :=
  { direct with schema := { direct.schema with
      variants := fun property => some [property ++ "_int".toList, property ++ "_txt".toList] } }

theorem matches_isNull_iff_twofold :
    "rating".toList ≠ [] ∧
    twofold.schema.variants "rating".toList = some ["rating_int".toList, "rating_txt".toList] ∧
    ∃ f, (twofold.compile (.isNull "rating".toList)).result = .ok f ∧
      ∀ (Doc : Type) (i : Interpretation Doc) (holds : Text → Doc → Prop),
        i.ReadsAbsence holds ["rating_int".toList, "rating_txt".toList] → ∀ d,
          f.Matches i d ↔ ∃ x ∈ ["rating_int".toList, "rating_txt".toList], ¬ holds x d := by
  have hne : "rating".toList ≠ [] := by decide
  have hvariants :
      twofold.schema.variants "rating".toList = some ["rating_int".toList, "rating_txt".toList] :=
    rfl
  obtain ⟨f, hf, hmatches, -⟩ := matches_isNull_iff hne hvariants (by decide)
  exact ⟨hne, hvariants, f, hf, hmatches⟩

/-- A document with a number and no words is found, though not every field is without a value. -/
theorem not_matches_isNull :
    ∃ (f : Fragment) (i : Interpretation Unit) (holds : Text → Unit → Prop),
      (twofold.compile (.isNull "rating".toList)).result = .ok f ∧
      i.ReadsAbsence holds ["rating_int".toList, "rating_txt".toList] ∧
      ¬(f.Matches i () ↔ ∀ x ∈ ["rating_int".toList, "rating_txt".toList], ¬ holds x ()) := by
  have hresult : (twofold.compile (.isNull "rating".toList)).result
      = .ok { query := absenceQuery ["rating_int".toList, "rating_txt".toList] } := rfl
  have hnumber : "rating_int".toList ∈ ["rating_int".toList, "rating_txt".toList] := by decide
  have hwords : "rating_txt".toList ∈ ["rating_int".toList, "rating_txt".toList] := by decide
  have hne : "rating_int".toList ≠ "rating_txt".toList := by decide
  obtain ⟨i, holds, hi, hfound, hvalue⟩ := exists_matches_of_ne hwords hne
  refine ⟨_, i, holds, hresult, hi, ?_⟩
  intro hiff
  exact hiff.mp hfound _ hnumber hvalue

end Compiler
end CatalogQuery
