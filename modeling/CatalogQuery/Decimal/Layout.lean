import CatalogQuery.Decimal.Numeral
import CatalogQuery.Decimal.Shortest

/-!
# Writing floating-point values

A `Layout` says how the shortest digits of a value are set out: between which magnitudes the
point stands among the digits, what marks a whole number, and which way a tie goes. `render`
writes any value by a layout.

* `Layout.plain`: never an exponent and no mark on whole numbers, as in query texts;
* `Layout.exact64`, `Layout.exact32`: an exponent for very large and very small magnitudes and
  `.0` on whole numbers, as in structured documents.
-/

namespace CatalogQuery
namespace Decimal

/-- How the digits of a value are set out. A value `0.d₁d₂... * 10 ^ point` is written with the
point among its digits when `point` is above `pointAbove` and at most `pointUpTo`. -/
structure Layout where
  pointAbove : Option Int
  pointUpTo : Option Int
  wholeMark : Text
  tie : Tie

/-- Numbers in query texts: always with the point among the digits, `2` for two. -/
def Layout.plain : Layout := ⟨none, none, [], .up⟩

/-- Double-precision numbers in structured documents. -/
def Layout.exact64 : Layout := ⟨some (-5), some 16, ".0".toList, .toEven⟩

/-- Single-precision numbers in structured documents. -/
def Layout.exact32 : Layout := ⟨some (-6), some 13, ".0".toList, .toEven⟩

/-- Is the value written with the point among its digits? -/
def Layout.isPositional (l : Layout) (point : Int) : Bool :=
  l.pointAbove.all (fun a => decide (a < point)) && l.pointUpTo.all (fun b => decide (point ≤ b))

/-- Digits with the point at its place, filled up with zeros where the digits end short of it. -/
def positional (wholeMark digits : Text) (point : Int) : Text :=
  if point ≤ 0 then '0' :: '.' :: List.replicate (-point).toNat '0' ++ digits
  else if digits.length ≤ point.toNat then
    digits ++ List.replicate (point.toNat - digits.length) '0' ++ wholeMark
  else digits.take point.toNat ++ '.' :: digits.drop point.toNat

/-- An integer with its sign, also when it is plus. -/
def signed (z : Int) : Text := if 0 ≤ z then '+' :: natural z.toNat else integer z

/-- One digit, the others behind the point, and the power of ten with its sign. -/
def scientific (digits : Text) (point : Int) : Text :=
  digits.take 1 ++ (if digits.length ≤ 1 then [] else '.' :: digits.drop 1) ++
    'e' :: signed (point - 1)

/-- A positive finite value. -/
def renderMagnitude (l : Layout) (x : Magnitude) : Text :=
  let (d, k) := x.shortest l.tie
  let digits := natural d
  let point := digits.length + k
  if l.isPositional point then positional l.wholeMark digits point else scientific digits point

/-- A minus sign, if there is one. -/
def sign (negative : Bool) : Text := if negative then ['-'] else []

/-- Any floating-point value. -/
def render (l : Layout) : BinaryValue → Text
  | .notANumber => "NaN".toList
  | .infinite n => sign n ++ "inf".toList
  | .zero n => sign n ++ '0' :: l.wholeMark
  | .finite n x => sign n ++ renderMagnitude l x

/-- A double-precision number in a query text. -/
def double (x : Float) : Text := render .plain (.ofDouble x)

/-- A single-precision number in a query text. -/
def single (x : Float32) : Text := render .plain (.ofSingle x)

end Decimal
end CatalogQuery
