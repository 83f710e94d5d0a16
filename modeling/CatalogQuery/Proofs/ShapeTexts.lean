import CatalogQuery.Proofs.Made
import CatalogQuery.Proofs.Targets
import CatalogQuery.Text.Plain

/-!
# Shapes between quotes

The query of a search by location is a field and a quoted body, in which the target stands as a
shape. A circle and a geometry that was made for the search are written as plain texts. A geometry
text that was given is put into the body as it is, and no quote in it is escaped.

* `Text.EndsQuoted`: a reader of the query leaves the quotes at its end;
* `Target.eachCovered_text_iff`: only a text that was given can have bare quotes;
* `Compiler.endsQuoted_search_iff`: so a query ends quoted unless such a text has one, whether the
  text can be read or not;
* `Compiler.not_endsQuoted_search`: one quote behind a point leaves the quotes.
-/

namespace CatalogQuery
namespace Text

open Quoted

variable {field body t : Text}

/-- A clause for a field with a quoted body: of the quotes that no backslash covers, the second one
ends the query. -/
def EndsQuoted (field query : Text) : Prop :=
  ∃ rest body, readTo '"' query = some (field ++ [':'], rest) ∧ readTo '"' rest = some (body, [])

theorem endsQuoted_phrase_iff (hfield : IsPlain field) :
    EndsQuoted field (Compiler.clause field (Compiler.phrase body)) ↔ IsBody '"' body := by
  have hname : IsPlain (field ++ [':']) := isPlain_append.mpr ⟨hfield, by decide⟩
  have hopen : readTo '"' (Compiler.clause field (Compiler.phrase body))
      = some (field ++ [':'], body ++ ['"']) := by
    rw [← hname.readTo]
    simp [Compiler.clause, Compiler.phrase]
  have hquote : '"' ≠ '\\' := by decide
  have hclose := readTo_append_iff hquote false body []
  rw [EndsQuoted, isBody_iff hquote, ← hclose, hopen]
  constructor
  · rintro ⟨rest, b, heq, hb⟩
    cases heq
    exact ⟨b, hb⟩
  · rintro ⟨b, hb⟩
    exact ⟨_, b, rfl, hb⟩

end Text

open Text.Quoted

theorem Relation.isPlain_name (r : Relation) : Text.IsPlain r.name := by
  cases r <;> decide

namespace Target

theorem isPlain_circleText (center : Coord) (radius : Float) :
    Text.IsPlain (Compiler.circleText center radius) := by
  have hcenter : Text.IsPlain ("BUFFER(POINT(".toList ++ center.lonLat) :=
    Text.isPlain_append.mpr ⟨by decide, Text.isPlain_lonLat center⟩
  have hcomma : Text.IsPlain ("BUFFER(POINT(".toList ++ center.lonLat ++ "), ".toList) :=
    Text.isPlain_append.mpr ⟨hcenter, by decide⟩
  have hradius := Text.isPlain_append.mpr ⟨hcomma, Text.isPlain_double radius⟩
  exact Text.isPlain_append.mpr ⟨hradius, by decide⟩

/-- Whatever a search makes of a geometry text has no quotes at all. -/
theorem eachCovered_text_iff (t : Target) : EachCovered '"' false t.text ↔
    ∀ wkt, t = .given wkt → EachCovered '"' false wkt := by
  cases t with
  | circle center radius =>
      exact iff_of_true ((isPlain_circleText center radius).eachCovered false) nofun
  | area g => exact iff_of_true ((Text.isPlain_write g).eachCovered false) nofun
  | given wkt =>
      constructor
      · rintro h _ ⟨⟩
        exact h
      · intro h
        exact h wkt rfl

end Target

namespace Compiler

variable {c : Compiler} {p : Predicate} {r : Relation} {property : Text} {f : Fragment}

theorem endsQuoted_relationClause_iff {field shape : Text} (hfield : Text.IsPlain field)
    (r : Relation) : Text.EndsQuoted field (relationClause field r shape) ↔
      EachCovered '"' false shape := by
  have hbefore : Text.IsPlain (r.name ++ ['(']) :=
    Text.isPlain_append.mpr ⟨r.isPlain_name, by decide⟩
  have hshape : r.name ++ '(' :: shape ++ [')'] = (r.name ++ ['(']) ++ shape ++ ')' :: [] := by
    simp
  rw [relationClause, Text.endsQuoted_phrase_iff hfield, hshape,
    Text.isBody_between_iff hbefore (by decide)]

theorem query_eq_of_hasTarget {t : Target} (hp : p.location? = some property)
    (h : (c.compile p).result = .ok f) (ht : p.HasTarget c.settings c.draw r t) :
    f.query = relationClause (c.schema.field property .geometry false) r t.text := by
  obtain ⟨hne, -⟩ := hasTarget_of_result hp h
  have hquery := (isAbout_compile hp hne ht).result
  rw [h] at hquery
  rw [Except.ok.inj hquery]
  rfl

/-- The query of a search by location is a quoted body in the field of the property. The body ends
with the query exactly when every quote of a geometry text that was put into it is covered by a
backslash of that text. -/
theorem endsQuoted_search_iff (hp : p.location? = some property)
    (hfield : Text.IsPlain (c.schema.field property .geometry false))
    (h : (c.compile p).result = .ok f) :
    (∃ body, f.query = clause (c.schema.field property .geometry false) (phrase body)) ∧
      (Text.EndsQuoted (c.schema.field property .geometry false) f.query ↔
        ∀ r wkt, p.HasTarget c.settings c.draw r (.given wkt) → EachCovered '"' false wkt) := by
  obtain ⟨-, r, t, ht⟩ := hasTarget_of_result hp h
  refine ⟨⟨_, query_eq_of_hasTarget hp h ht⟩, ?_⟩
  constructor
  · intro hends r' wkt hgiven
    rw [query_eq_of_hasTarget hp h hgiven] at hends
    exact (endsQuoted_relationClause_iff hfield r').mp hends
  · intro hgiven
    rw [query_eq_of_hasTarget hp h ht, endsQuoted_relationClause_iff hfield,
      Target.eachCovered_text_iff]
    rintro wkt rfl
    exact hgiven r wkt ht

/-- A text with a quote of its own stays within when a backslash covers that quote. -/
theorem endsQuoted_search_iff_covered :
    (direct.compile (.within "loc".toList "a\\\"b".toList)).result
      = .ok ⟨"loc:\"IsWithin(a\\\"b)\"".toList, []⟩ ∧
    Text.EndsQuoted "loc".toList "loc:\"IsWithin(a\\\"b)\"".toList := by
  have hresult : (direct.compile (.within "loc".toList "a\\\"b".toList)).result
      = .ok ⟨"loc:\"IsWithin(a\\\"b)\"".toList, []⟩ := rfl
  refine ⟨hresult, (endsQuoted_search_iff rfl (by decide) hresult).2.mpr ?_⟩
  rintro r wkt ⟨⟩
  exact (eachClose_iff.mp (by decide : EachClose '"' true false "a\\\"b".toList)).1

/-- Not every text stays within: what follows a point is not looked at, and a quote there ends the
body before the query ends. -/
theorem not_endsQuoted_search :
    (direct.compile (.contains "loc".toList "POINT(1 2)\"".toList)).result
      = .ok ⟨"loc:\"Contains(POINT(1 2)\")\"".toList, []⟩ ∧
    Text.isBlank "POINT(1 2)\"".toList = false ∧
    Text.IsPlain (direct.schema.field "loc".toList .geometry false) ∧
    ¬ Text.EndsQuoted (direct.schema.field "loc".toList .geometry false)
      "loc:\"Contains(POINT(1 2)\")\"".toList := by
  refine ⟨rfl, by decide, by decide, ?_⟩
  rintro ⟨rest, body, hopen, hclose⟩
  have hrest : readTo '"' "loc:\"Contains(POINT(1 2)\")\"".toList
      = some ("loc:".toList, "Contains(POINT(1 2)\")\"".toList) := by decide
  have hread : readTo '"' "Contains(POINT(1 2)\")\"".toList
      = some ("Contains(POINT(1 2)".toList, ")\"".toList) := by decide
  cases hrest.symm.trans hopen
  cases hread.symm.trans hclose

end Compiler
end CatalogQuery
