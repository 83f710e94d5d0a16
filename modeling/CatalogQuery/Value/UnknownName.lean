import CatalogQuery.Text.Basic

/-!
# Names that stand for nothing

Value types and sort orders are given by name. A name that is not one of theirs is reported as it
was given, with its case and the white space around it.
-/

namespace CatalogQuery

/-- A name that was looked up in vain. -/
inductive UnknownName where
  | valueType (given : Text)
  | sortOrder (given : Text)
  deriving DecidableEq, Repr

/-- The message for a name that was looked up in vain. -/
def UnknownName.message : UnknownName → Text
  | .valueType t => "Unknown value type: ".toList ++ t
  | .sortOrder t => "Unknown sort order: ".toList ++ t

end CatalogQuery
