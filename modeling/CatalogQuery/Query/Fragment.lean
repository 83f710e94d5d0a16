import CatalogQuery.Text.Quoted

/-!
# Query fragments

A predicate is compiled to a fragment: the text of a query, and path filters that go with it. A
path cannot be written inside the query, so it rides along as a filter, which the search engine
applies to what the query finds.

* `PathFilter.text`: a filter as it is sent, with the path quoted;
* `PathFilter.read?`: what was sent, read back (`read?_text`);
* `Fragment.filterParams`: the values of the request parameter for the filters.
-/

namespace CatalogQuery

/-- A filter by a path expression. -/
inductive PathFilter where
  /-- Documents for which the path selects a node. -/
  | path (body : Text)
  /-- A cheaper test on an index of paths, which some of the other documents pass too. -/
  | index (body : Text)
  deriving DecidableEq, Repr

namespace PathFilter

/-- The path expression of a filter. -/
def body : PathFilter → Text
  | path b => b
  | index b => b

/-- The path of an exact filter. -/
def path? : PathFilter → Option Text
  | path b => some b
  | index _ => none

/-- The path of an index filter. -/
def index? : PathFilter → Option Text
  | path _ => none
  | index b => some b

theorem path?_eq_some_iff {f : PathFilter} {b : Text} : f.path? = some b ↔ f = path b := by
  cases f with
  | path b' => simp [path?]
  | index b' => simp [path?]

theorem mem_filterMap_path? {fs : List PathFilter} {b : Text} :
    b ∈ fs.filterMap path? ↔ path b ∈ fs := by
  simp [path?_eq_some_iff]

theorem index?_eq_some_iff {f : PathFilter} {b : Text} : f.index? = some b ↔ f = index b := by
  cases f with
  | path b' => simp [index?]
  | index b' => simp [index?]

theorem mem_filterMap_index? {fs : List PathFilter} {b : Text} :
    b ∈ fs.filterMap index? ↔ index b ∈ fs := by
  simp [index?_eq_some_iff]

/-- What a filter begins with when it is sent: the parser and the field it searches. -/
def opening : PathFilter → Text
  | path _ => "\x7b!xpath\x7dxpath:\"".toList
  | index _ => "\x7b!xpath\x7dxpath_index:\"".toList

/-- A filter as it is sent. -/
def text (f : PathFilter) : Text := f.opening ++ Text.Quoted.encode f.body ++ ['"']

/-! ## Reading back -/

/-- A quoted body that ends with the text. -/
def readBody? (t : Text) : Option Text :=
  match Text.Quoted.readTo '"' t with
  | some (b, []) => some b
  | _ => none

/-- A filter as it was sent. -/
def read? (t : Text) : Option PathFilter :=
  match Text.afterFront (opening (path [])) t with
  | some r => (readBody? r).map path
  | none =>
    match Text.afterFront (opening (index [])) t with
    | some r => (readBody? r).map index
    | none => none

theorem readBody?_encode (b : Text) : readBody? (Text.Quoted.encode b ++ ['"']) = some b := by
  rw [readBody?, Text.Quoted.readTo_encode]

/-- A filter that was sent reads back. -/
theorem read?_text (f : PathFilter) : read? f.text = some f := by
  cases f with
  | path b =>
      have h : opening (path b) = opening (path []) := rfl
      rw [read?, text, List.append_assoc, h, Text.afterFront_append]
      simp [body, readBody?_encode]
  | index b =>
      have h : opening (index b) = opening (index []) := rfl
      have hn : ∀ t, Text.afterFront (opening (path [])) (opening (index []) ++ t) = none := by
        intro t
        rfl
      rw [read?, text, List.append_assoc, h, hn, Text.afterFront_append]
      simp [body, readBody?_encode]

end PathFilter

/-- The text of a query and the path filters that go with it. -/
structure Fragment where
  query : Text
  filters : List PathFilter := []
  deriving DecidableEq, Repr

namespace Fragment

/-- The query that finds every document. -/
def matchAll : Text := "*:*".toList

/-- The fragment without anything in it. -/
def empty : Fragment := ⟨[], []⟩

/-- The fragment with another query. -/
def withQuery (f : Fragment) (query : Text) : Fragment := { f with query }

/-- The fragment with other filters. -/
def withFilters (f : Fragment) (filters : List PathFilter) : Fragment := { f with filters }

/-- The fragment with one more filter at the end. -/
def addFilter (f : Fragment) (filter : PathFilter) : Fragment :=
  { f with filters := f.filters ++ [filter] }

/-- The name of the request parameter for filters. -/
def filterParamName : Text := "fq".toList

/-- The request parameters by name: the filters in order, if there are any. -/
def params (f : Fragment) : List (Text × List Text) :=
  if f.filters.isEmpty then [] else [(filterParamName, f.filters.map PathFilter.text)]

end Fragment
end CatalogQuery
