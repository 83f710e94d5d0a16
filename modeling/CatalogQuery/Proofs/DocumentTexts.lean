import CatalogQuery.Json.Fragments
import CatalogQuery.Json.Values
import CatalogQuery.Json.Written

/-!
# Texts of fragments and orders of results

A fragment and an order of results are written as JSON documents. Each of them is written for a
tree of values, and the tree is decoded to what it was made from, so that nothing is lost whatever
characters the query, the paths and the property have.

* `PathFilter.toValue`, `Fragment.toValue`, `SortBy.toValue`: the trees;
* `Fragment.writes_toJson`, `Fragment.ofJson?_toValue`: a document is written for its tree, and the
  tree is decoded;
* `parse?_toJson_and_injective`: a document reads back, and so distinct fragments, and distinct
  orders of results, have distinct documents.
-/

namespace CatalogQuery

/-- A list is decoded when each of its items is. -/
theorem Json.Value.listOf?_map {α : Type} {decode : Json.Value → Option α} {value : α → Json.Value}
    (h : ∀ x, decode (value x) = some x) (xs : List α) :
    Json.Value.listOf? decode (.array (xs.map value)) = some xs := by
  show (xs.map value).mapM decode = some xs
  induction xs with
  | nil => rfl
  | cons x xs ih =>
      rw [List.map_cons, List.mapM_cons, h, ih]
      rfl

namespace PathFilter

/-- A filter as a tree: an object of its kind and its path. -/
def toValue (f : PathFilter) : Json.Value := .object [(some f.kindName, .string (some f.body))]

theorem writes_toJson (f : PathFilter) : Json.Writes f.toJson f.toValue :=
  Json.writes_object [⟨f.kindName, _, _, Json.writes_string f.body⟩]

theorem ofJson?_toValue (f : PathFilter) : ofJson? f.toValue = some f := by
  cases f with
  | path b => rfl
  | index b => rfl

end PathFilter

namespace Fragment

/-- A fragment as a tree: an object of its query and the array of its filters. -/
def toValue (f : Fragment) : Json.Value :=
  .object [("query".toList, .string (some f.query)),
    ("filter_queries".toList, .array (f.filters.map PathFilter.toValue))]

theorem writes_toJson (f : Fragment) : Json.Writes f.toJson f.toValue :=
  Json.writes_object [⟨"query".toList, _, _, Json.writes_string f.query⟩,
    ⟨"filter_queries".toList, _, _, Json.writes_array fun g _ => g.writes_toJson⟩]

theorem ofJson?_toValue (f : Fragment) : ofJson? f.toValue = some f := by
  have hfields : f.toValue.fields? fieldNames = some [some (.string (some f.query)),
      some (.array (f.filters.map PathFilter.toValue))] := rfl
  have hfilters := Json.Value.listOf?_map PathFilter.ofJson?_toValue f.filters
  rw [ofJson?, hfields]
  simp only [Option.bind_eq_bind, Option.bind_some, Json.Value.required, hfilters]
  rfl

/-- A fragment reads back from its document. -/
theorem parse?_toJson (f : Fragment) : parse? f.toJson = some f := by
  rw [parse?, Json.read?_of_writes f.writes_toJson, Option.bind_some, ofJson?_toValue]

end Fragment

namespace SortBy

/-- An order of results as a tree: an object of its property and the name of its direction. -/
def toValue (s : SortBy) : Json.Value :=
  .object [("property_name".toList, .string (some s.property)),
    ("order".toList, .string (some s.order.name))]

theorem writes_toJson (s : SortBy) : Json.Writes s.toJson s.toValue :=
  Json.writes_object [⟨"property_name".toList, _, _, Json.writes_string s.property⟩,
    ⟨"order".toList, _, _, Json.writes_string s.order.name⟩]

theorem ofJson?_toValue (s : SortBy) : ofJson? s.toValue = some s := by
  have hfields : s.toValue.fields? fieldNames = some [some (.string (some s.property)),
      some (.string (some s.order.name))] := rfl
  have horder : SortOrder.ofJson? (.string (some s.order.name)) = some s.order :=
    SortOrder.ofName?_name s.order
  rw [ofJson?, hfields]
  simp only [Option.bind_eq_bind, Option.bind_some, Json.Value.required, Json.Value.optional,
    horder]
  rfl

/-- An order of results reads back from its document. -/
theorem parse?_toJson (s : SortBy) : parse? s.toJson = some s := by
  rw [parse?, Json.read?_of_writes s.writes_toJson, Option.bind_some, ofJson?_toValue]

end SortBy

/-- Fragments and orders of results read back from their documents, whatever characters they are
made of, and so no two of them share a document. -/
theorem parse?_toJson_and_injective :
    (∀ f : Fragment, Fragment.parse? f.toJson = some f) ∧
    (∀ s : SortBy, SortBy.parse? s.toJson = some s) ∧
    Function.Injective Fragment.toJson ∧ Function.Injective SortBy.toJson := by
  refine ⟨Fragment.parse?_toJson, SortBy.parse?_toJson, fun f g h => ?_, fun s u h => ?_⟩
  · have hread := congrArg Fragment.parse? h
    rw [f.parse?_toJson, g.parse?_toJson] at hread
    exact Option.some.inj hread
  · have hread := congrArg SortBy.parse? h
    rw [s.parse?_toJson, u.parse?_toJson] at hread
    exact Option.some.inj hread

example : Fragment.toJson ⟨"\"\x01é".toList, [.path "//b".toList]⟩ =
    ("\x7b\"query\":\"\\\"\\u0001é\",".toList ++
      "\"filter_queries\":[\x7b\"XPath\":\"//b\"\x7d]\x7d".toList) := by decide

end CatalogQuery
