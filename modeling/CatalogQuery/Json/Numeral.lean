import CatalogQuery.Decimal.Numeral
import CatalogQuery.Json.Value

/-!
# The values of JSON numbers

A number without a point and an exponent is a whole number when it fits into 64 bits. Any number
is a floating-point number: its digits are gathered into 64 bits, as many as fit, and scaled by
one power of ten. So a number of many digits may come out next to the nearest value.
-/

namespace CatalogQuery
namespace Json
namespace Numeral

/-- The least number that does not fit into 64 bits. -/
def wordSize : Nat := UInt64.size

/-- The value of a number without a point and an exponent, if it fits into 64 bits, with the sign
bit when it is negative. A negative zero is not a whole number. -/
def whole? (n : Numeral) : Option Int :=
  if n.fraction.isEmpty && n.exponent.isNone then
    let v := Decimal.value n.whole
    if n.negative then if 0 < v ∧ v ≤ wordSize / 2 then some (-(v : Int)) else none
    else if v < wordSize then some (v : Int)
    else none
  else none

/-- Gather digits behind a value while they fit: the value, and the number of digits left. -/
def gather (v : Nat) : Text → Nat × Nat
  | [] => (v, 0)
  | c :: r =>
    let next := 10 * v + (c.toNat - '0'.toNat)
    if next < wordSize then gather next r else (v, r.length + 1)

/-- A power of ten. -/
def powerOfTen (n : Nat) : Float := Float.ofScientific 1 false n

/-- A floating-point number times a power of ten, if it is in range. -/
def scale (f : Float) (exponent : Int) : Option Float :=
  if f == 0 then some f
  else if 308 < exponent then none
  else if 0 ≤ exponent then
    let g := f * powerOfTen exponent.toNat
    if g.isInf then none else some g
  else if -308 ≤ exponent then some (f / powerOfTen (-exponent).toNat)
  else if -616 ≤ exponent then some (f / powerOfTen 308 / powerOfTen (-exponent - 308).toNat)
  else some 0

/-- The value in double precision, if it is in range. -/
def double? (n : Numeral) : Option Float :=
  let (v, left) := gather 0 n.whole
  let (v, unread) := gather v n.fraction
  let exponent := left - (n.fraction.length - unread : Int) + n.exponent.getD 0
  (scale (Float.ofNat v) exponent).map fun f => if n.negative then -f else f

/-- The value in single precision, if it is in range for double precision. -/
def single? (n : Numeral) : Option Float32 :=
  match n.whole? with
  | some z =>
    let f := Float32.ofScientific z.natAbs false 0
    some (if z < 0 then -f else f)
  | none => n.double?.map Float.toFloat32

end Numeral
end Json
end CatalogQuery
