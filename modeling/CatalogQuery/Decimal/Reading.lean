import CatalogQuery.Decimal.Numeral

/-!
# Reading decimal numbers

A number is an optional sign and then either digits with an optional point and an optional
exponent, or one of the words `inf`, `infinity` and `nan` in any case. The value is the nearest
floating-point number, and infinite beyond the range.
-/

namespace CatalogQuery
namespace Decimal

/-- The number `digits * 10 ^ exponent`, with a sign. -/
structure Literal where
  negative : Bool
  digits : Nat
  exponent : Int
  deriving DecidableEq, Repr

/-- What a number can be written as. -/
inductive Written where
  | literal (l : Literal)
  | infinite (negative : Bool)
  | notANumber
  deriving DecidableEq, Repr

/-! ## Parts of a literal -/

/-- An optional sign at the front (is it a minus?), and the rest. -/
def signAndRest : Text → Bool × Text
  | '-' :: r => (true, r)
  | '+' :: r => (false, r)
  | t => (false, t)

/-- The whole of a text as an exponent: a sign may stand before its digits, of which there is at
least one. -/
def exponentOf? (t : Text) : Option Int :=
  let (negative, r) := signAndRest t
  let (digits, rest) := digitsAndRest r
  if digits.isEmpty || !rest.isEmpty then none
  else some (if negative then -(value digits : Int) else value digits)

/-- The digits behind the point, if a point is next, and the rest. -/
def fractionAndRest : Text → Text × Text
  | '.' :: r => digitsAndRest r
  | t => ([], t)

/-- The whole of a text as an unsigned literal. At least one digit stands before the exponent. -/
def literalOf? (negative : Bool) (t : Text) : Option Literal :=
  let (whole, r) := digitsAndRest t
  let (fraction, r) := fractionAndRest r
  if whole.isEmpty && fraction.isEmpty then none
  else
    let digits := value (whole ++ fraction)
    match r with
    | [] => some ⟨negative, digits, -fraction.length⟩
    | c :: e =>
      if c = 'e' ∨ c = 'E' then
        (exponentOf? e).map fun x => ⟨negative, digits, x - fraction.length⟩
      else none

/-! ## Numbers -/

/-- The whole of a text as a number. -/
def read? (t : Text) : Option Written :=
  let (negative, r) := signAndRest t
  let word := Text.lowerAscii r
  if word = "inf".toList ∨ word = "infinity".toList then some (.infinite negative)
  else if word = "nan".toList then some .notANumber
  else (literalOf? negative r).map .literal

/-- The nearest double-precision number. -/
def Literal.toDouble (l : Literal) : Float :=
  let x := Float.ofScientific l.digits (decide (l.exponent < 0)) l.exponent.natAbs
  if l.negative then -x else x

/-- The nearest single-precision number. -/
def Literal.toSingle (l : Literal) : Float32 :=
  let x := Float32.ofScientific l.digits (decide (l.exponent < 0)) l.exponent.natAbs
  if l.negative then -x else x

/-- The double-precision number that is written. -/
def Written.toDouble : Written → Float
  | .literal l => l.toDouble
  | .infinite n => if n then -1.0 / 0.0 else 1.0 / 0.0
  | .notANumber => 0.0 / 0.0

/-- The single-precision number that is written. -/
def Written.toSingle : Written → Float32
  | .literal l => l.toSingle
  | .infinite n => if n then -1.0 / 0.0 else 1.0 / 0.0
  | .notANumber => 0.0 / 0.0

/-- A text as a double-precision number. -/
def double? (t : Text) : Option Float := (read? t).map Written.toDouble

/-- A text as a single-precision number. -/
def single? (t : Text) : Option Float32 := (read? t).map Written.toSingle

end Decimal
end CatalogQuery
