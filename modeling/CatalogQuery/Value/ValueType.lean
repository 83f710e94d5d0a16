import CatalogQuery.Value.UnknownName

/-!
# Value types

A value type says how a literal is compared, and so which of the indexed variants of a property
has to be searched.

* `ValueType.name`: the name it is written with;
* `ValueType.named`: the type for a name that somebody typed, in any ASCII case, possibly a short
  form, with white space around it (`named_name`: every type is found under its own name).
-/

namespace CatalogQuery

/-- How a literal is compared. -/
inductive ValueType where
  | string
  | date
  | integer
  | short
  | long
  | float
  | double
  | boolean
  | geometry
  deriving DecidableEq, Repr

namespace ValueType

/-- Every value type. -/
def all : List ValueType :=
  [string, date, integer, short, long, float, double, boolean, geometry]

/-- The name a value type is written with. -/
def name : ValueType → Text
  | string => "string".toList
  | date => "date".toList
  | integer => "integer".toList
  | short => "short".toList
  | long => "long".toList
  | float => "float".toList
  | double => "double".toList
  | boolean => "boolean".toList
  | geometry => "geometry".toList

/-- Numbers of any width. -/
def isNumeric : ValueType → Bool
  | integer | short | long | float | double => true
  | _ => false

/-- Points in time. -/
def isTemporal : ValueType → Bool
  | date => true
  | _ => false

/-- Other names for some of the types. -/
def aliases : List (Text × ValueType) :=
  [("text".toList, string), ("int".toList, integer), ("bool".toList, boolean)]

/-- The type with exactly this name. -/
def ofName? (t : Text) : Option ValueType := all.find? (·.name == t)

/-- The type for a name as it was typed. -/
def named (given : Text) : Except UnknownName ValueType :=
  let t := Text.lowerAscii (Text.trim given)
  match ofName? t <|> aliases.lookup t with
  | some v => .ok v
  | none => .error (.valueType given)

theorem ofName?_name (v : ValueType) : ofName? v.name = some v := by cases v <;> decide

theorem named_name (v : ValueType) : named v.name = .ok v := by cases v <;> rfl

end ValueType
end CatalogQuery
