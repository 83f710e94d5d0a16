import CatalogQuery.Value.ValueType

/-!
# Schemas

The index holds a property in several fields, one for each way to search it. A schema tells which
fields there are. The compiler works with any schema: the names are texts without a meaning of
their own.
-/

namespace CatalogQuery

/-- The fields of an index. -/
structure Schema where
  /-- The field of a property that is compared as values of a type. The exact variant is the one
  for whole values. -/
  field : Text → ValueType → Bool → Text
  /-- The field beside a field that keeps the case of letters. -/
  caseSensitive : Text → Text
  /-- The field beside a field that is cut into words at white space only. -/
  whitespaceTokenized : Text → Text
  /-- Every field with free text. -/
  anyText : List Text
  /-- Every field that may hold a property of unknown type; none for an unknown property. -/
  variants : Text → Option (List Text)

end CatalogQuery
