import CatalogQuery.Geometry.Buffer
import CatalogQuery.Index.Schema
import CatalogQuery.Index.Settings
import CatalogQuery.Predicate.Error
import CatalogQuery.Value.Sort

/-!
# Compilers

A compiler knows the schema of an index and its own settings. It remembers which order of the
results is requested, and the position from which they are sorted by distance.

Here it finds the fields that a predicate on a property has to search.
-/

namespace CatalogQuery

/-- A compiler of predicates for an index. -/
structure Compiler where
  schema : Schema
  settings : Settings
  /-- The library that draws the buffers. -/
  draw : Drawing
  /-- The requested order of the results. -/
  sortBy : Option SortBy := none
  /-- The position from which the results are sorted by distance. -/
  distancePoint : Option Coord := none

namespace Compiler

/-- Does the property stand for every field with free text? -/
def isAnyText (c : Compiler) (property : Text) : Bool := c.settings.anyTextProperty == property

/-- The field of a property that is compared as values of a type. -/
def field (c : Compiler) (property : Text) (type : ValueType) (exact : Bool) :
    Except CompileError Text :=
  if property = [] then .error .propertyRequired else .ok (c.schema.field property type exact)

/-- The schema knows a field for every property that is named. -/
theorem field_of_ne_nil {property : Text} (h : property ≠ []) (c : Compiler) (type : ValueType)
    (exact : Bool) : c.field property type exact = .ok (c.schema.field property type exact) :=
  if_neg h

/-- The variant of a field for phrases with wildcards. -/
def phraseField (c : Compiler) (caseSensitive : Bool) (field : Text) : Text :=
  let words := c.schema.whitespaceTokenized field
  if caseSensitive then c.schema.caseSensitive words else words

/-- The fields to search for a phrase with wildcards: all those with free text, or the one of the
property. -/
def phraseFields (c : Compiler) (property : Text) (caseSensitive : Bool) :
    Except CompileError (List Text) :=
  if c.isAnyText property then .ok (c.schema.anyText.map (c.phraseField caseSensitive))
  else (c.field property .string true).map fun f => [c.phraseField caseSensitive f]

/-- Every field that may hold a value of a property. -/
def variantFields (c : Compiler) (property : Text) : Except CompileError (List Text) :=
  if property = [] then .error .propertyRequired
  else
    match c.schema.variants property with
    | none => .error (.unknownProperty property)
    | some [] => .error (.noVariants property)
    | some (f :: fs) => .ok (f :: fs)

end Compiler
end CatalogQuery
