import CatalogQuery.Json.Fields
import CatalogQuery.Json.Reader
import CatalogQuery.Json.Writer
import CatalogQuery.Query.Connective
import CatalogQuery.Value.Number
import CatalogQuery.Value.Sort

/-!
# Values in JSON

Value types, directions, connectives and orders of results by their names, and numbers by their
width.
-/

namespace CatalogQuery

/-! ## Names -/

/-- A value type as JSON. -/
def ValueType.toJson (v : ValueType) : Text := Json.string v.name

/-- A value type from JSON. -/
def ValueType.ofJson? (v : Json.Value) : Option ValueType := v.name?.bind ValueType.ofName?

/-- A direction as JSON. -/
def SortOrder.toJson (o : SortOrder) : Text := Json.string o.name

/-- A direction from JSON. -/
def SortOrder.ofJson? (v : Json.Value) : Option SortOrder := v.name?.bind SortOrder.ofName?

/-- A connective as JSON. -/
def Connective.toJson (c : Connective) : Text := Json.string c.pathKeyword

/-- A connective from JSON. -/
def Connective.ofJson? (v : Json.Value) : Option Connective := v.name?.bind Connective.ofName?

/-! ## Orders of results -/

namespace SortBy

/-- The names of the fields. -/
def fieldNames : List Text := ["property_name".toList, "order".toList]

/-- An order of results as JSON. -/
def toJson (s : SortBy) : Text :=
  Json.object [("property_name".toList, Json.string s.property), ("order".toList, s.order.toJson)]

/-- An order of results from JSON. The direction may be missing. -/
def ofJson? (v : Json.Value) : Option SortBy := do
  match ← v.fields? fieldNames with
  | [property, order] =>
    pure {
      property := ← Json.Value.required Json.Value.text? property
      order := ← Json.Value.optional SortOrder.ofJson? .ascending order }
  | _ => none

/-- An order of results from the text of a JSON document. -/
def parse? (t : Text) : Option SortBy := (Json.read? t).bind ofJson?

end SortBy

/-! ## Numbers -/

namespace Number

/-- The names of the widths. -/
def widthName : Number → Text
  | short _ => "Short".toList
  | integer _ => "Integer".toList
  | long _ => "Long".toList
  | float _ => "Float".toList
  | double _ => "Double".toList

/-- The value of a number as JSON. -/
def valueJson : Number → Text
  | float x => Json.number .exact32 (.ofSingle x)
  | double x => Json.number .exact64 (.ofDouble x)
  | n => n.text

/-- A number as JSON. -/
def toJson (n : Number) : Text := Json.object [(n.widthName, n.valueJson)]

/-- A number of a width from JSON. -/
def ofWidth? (width : Text) (v : Json.Value) : Option Number :=
  if width = "Short".toList then
    (v.wholeBetween? Int16.minValue.toInt Int16.maxValue.toInt).map fun z => short (Int16.ofInt z)
  else if width = "Integer".toList then
    (v.wholeBetween? Int32.minValue.toInt Int32.maxValue.toInt).map fun z => integer (Int32.ofInt z)
  else if width = "Long".toList then
    (v.wholeBetween? Int64.minValue.toInt Int64.maxValue.toInt).map fun z => long (Int64.ofInt z)
  else if width = "Float".toList then v.single?.map float
  else if width = "Double".toList then v.double?.map double
  else none

/-- A number from JSON. -/
def ofJson? (v : Json.Value) : Option Number := v.variant?.bind fun p => ofWidth? p.1 p.2

end Number
end CatalogQuery
