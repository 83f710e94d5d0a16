import CatalogQuery.Json.Numeral

/-!
# Records and alternatives in JSON

* A record is an object of its fields by name, in which unknown names are skipped and a known name
  may come only once, or an array of its fields in order.
* An alternative without content is its name, or an object of its name and null.
* An alternative with content is an object of its name and the content.
-/

namespace CatalogQuery
namespace Json
namespace Value

/-- The text of a string. -/
def text? : Value → Option Text
  | string t => t
  | _ => none

/-- A number. -/
def numeral? : Value → Option Numeral
  | number n => some n
  | _ => none

/-- A whole number between two bounds. -/
def wholeBetween? (least greatest : Int) (v : Value) : Option Int := do
  let z ← (← v.numeral?).whole?
  if least ≤ z ∧ z ≤ greatest then some z else none

/-- A floating-point number in double precision. -/
def double? (v : Value) : Option Float := v.numeral?.bind Numeral.double?

/-- A floating-point number in single precision. -/
def single? (v : Value) : Option Float32 := v.numeral?.bind Numeral.single?

/-- Every item of an array, decoded. -/
def listOf? {α : Type} (decode : Value → Option α) : Value → Option (List α)
  | array items => items.mapM decode
  | _ => none

/-! ## Records -/

/-- The members of an object with the texts of their names. -/
def namedMembers? (members : List (Option Text × Value)) : Option (List (Text × Value)) :=
  members.mapM fun m => m.1.map fun name => (name, m.2)

/-- The value of a name among members, if it comes at most once: nothing if it does not come. -/
def member? (members : List (Text × Value)) (name : Text) : Option (Option Value) :=
  match members.filter (·.1 == name) with
  | [] => some none
  | [m] => some (some m.2)
  | _ => none

/-- The fields of a record, in the order of their names, nothing for a field that is missing. -/
def fields? (names : List Text) : Value → Option (List (Option Value))
  | object members => do
    let members ← namedMembers? members
    names.mapM (member? members)
  | array items =>
    if items.length ≤ names.length then
      some (items.map some ++ List.replicate (names.length - items.length) none)
    else none
  | _ => none

/-- A field that must be there. -/
def required {α : Type} (decode : Value → Option α) (field : Option Value) : Option α :=
  field.bind decode

/-- A field that has a default. -/
def optional {α : Type} (decode : Value → Option α) (default : α) (field : Option Value) :
    Option α :=
  match field with
  | none => some default
  | some v => decode v

/-! ## Alternatives -/

/-- The name of an alternative without content. -/
def name? : Value → Option Text
  | string t => t
  | object [(name, null)] => name
  | _ => none

/-- The name and the content of an alternative. -/
def variant? : Value → Option (Text × Value)
  | object [(some name, content)] => some (name, content)
  | _ => none

end Value
end Json
end CatalogQuery
