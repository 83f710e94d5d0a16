import CatalogQuery.Value.UnknownName

/-!
# Requested orders of results

A result list is sorted by one property, in ascending order unless descending order is asked for.
-/

namespace CatalogQuery

/-- The direction of an ordering. -/
inductive SortOrder where
  | ascending
  | descending
  deriving DecidableEq, Repr, Inhabited

namespace SortOrder

/-- The full name of a direction. -/
def name : SortOrder → Text
  | ascending => "ascending".toList
  | descending => "descending".toList

/-- The short name of a direction, as it is shown. -/
def keyword : SortOrder → Text
  | ascending => "asc".toList
  | descending => "desc".toList

/-- Both directions. -/
def all : List SortOrder := [ascending, descending]

/-- The direction with exactly this full name. -/
def ofName? (t : Text) : Option SortOrder := all.find? (·.name == t)

/-- The direction for a full or short name as it was typed, in any ASCII case and with white space
around it. -/
def named (given : Text) : Except UnknownName SortOrder :=
  let t := Text.lowerAscii (Text.trim given)
  match ofName? t <|> all.find? (·.keyword == t) with
  | some o => .ok o
  | none => .error (.sortOrder given)

theorem ofName?_name (o : SortOrder) : ofName? o.name = some o := by cases o <;> decide

theorem named_name (o : SortOrder) : named o.name = .ok o := by cases o <;> rfl

theorem named_keyword (o : SortOrder) : named o.keyword = .ok o := by cases o <;> rfl

end SortOrder

/-- One requested ordering of the results. -/
structure SortBy where
  property : Text
  order : SortOrder := .ascending
  deriving DecidableEq, Repr

end CatalogQuery
