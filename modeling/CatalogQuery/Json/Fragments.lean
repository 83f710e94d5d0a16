import CatalogQuery.Json.Fields
import CatalogQuery.Json.Reader
import CatalogQuery.Json.Writer
import CatalogQuery.Query.Fragment

/-!
# Fragments in JSON

A fragment is a record of its query and its filters, a filter an alternative with its path.
-/

namespace CatalogQuery

namespace PathFilter

/-- The name of the alternative. -/
def kindName : PathFilter → Text
  | path _ => "XPath".toList
  | index _ => "XPathIndex".toList

/-- A filter as JSON. -/
def toJson (f : PathFilter) : Text := Json.object [(f.kindName, Json.string f.body)]

/-- A filter of a kind from JSON. -/
def ofKind? (kind : Text) (v : Json.Value) : Option PathFilter :=
  if kind = "XPath".toList then v.text?.map path
  else if kind = "XPathIndex".toList then v.text?.map index
  else none

/-- A filter from JSON. -/
def ofJson? (v : Json.Value) : Option PathFilter := v.variant?.bind fun p => ofKind? p.1 p.2

end PathFilter

namespace Fragment

/-- The names of the fields. -/
def fieldNames : List Text := ["query".toList, "filter_queries".toList]

/-- A fragment as JSON. -/
def toJson (f : Fragment) : Text :=
  Json.object [
    ("query".toList, Json.string f.query),
    ("filter_queries".toList, Json.array (f.filters.map PathFilter.toJson))]

/-- A fragment from JSON. -/
def ofJson? (v : Json.Value) : Option Fragment := do
  match ← v.fields? fieldNames with
  | [query, filters] =>
    pure {
      query := ← Json.Value.required Json.Value.text? query
      filters := ← Json.Value.required (Json.Value.listOf? PathFilter.ofJson?) filters }
  | _ => none

/-- A fragment from the text of a JSON document. -/
def parse? (t : Text) : Option Fragment := (Json.read? t).bind ofJson?

end Fragment
end CatalogQuery
