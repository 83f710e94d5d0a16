import CatalogQuery.Decimal.Layout
import CatalogQuery.Value.ValueType

/-!
# Numeric literals

A numeric literal remembers the width it was given with: the width decides which indexed variant
of a property is searched, so two literals with the same value may search different fields.
-/

namespace CatalogQuery

/-- A number of one of five widths. -/
inductive Number where
  | short (n : Int16)
  | integer (n : Int32)
  | long (n : Int64)
  | float (x : Float32)
  | double (x : Float)

namespace Number

/-- The type that a literal is compared as. -/
def valueType : Number → ValueType
  | short _ => .short
  | integer _ => .integer
  | long _ => .long
  | float _ => .float
  | double _ => .double

/-- The literal as it stands in a query, without grouping and without an exponent. -/
def text : Number → Text
  | short n => Decimal.integer n.toInt
  | integer n => Decimal.integer n.toInt
  | long n => Decimal.integer n.toInt
  | float x => Decimal.single x
  | double x => Decimal.double x

/-- The value of a literal of one of the integer widths. -/
def whole? : Number → Option Int
  | short n => some n.toInt
  | integer n => some n.toInt
  | long n => some n.toInt
  | _ => none

/-- The text of an integer literal is its value in digits. -/
theorem text_eq_of_whole? {n : Number} {z : Int} (h : n.whole? = some z) :
    n.text = Decimal.integer z := by
  cases n <;> simp_all [whole?, text]

end Number
end CatalogQuery
