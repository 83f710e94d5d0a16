import CatalogQuery.Geometry.Basic

/-!
# Lengths of vectors

The length of a vector is the root of the sum of the squares of its components, improved by one
step towards the exact value. Components whose squares would be out of range are scaled first.
-/

namespace CatalogQuery
namespace Length

/-- A power of two. -/
def powerOfTwo (n : Int) : Float := Float.scaleB 1 n

/-- A component this many times smaller than the other one does not change the length. -/
def negligible : Float := powerOfTwo (-54)

/-- The factor for components whose squares are too large, and its inverse for those whose squares
are too small. -/
def rescaling : Float := powerOfTwo (-600)

/-- The length for two components with squares in range, `0 ≤ minor ≤ major`: the rounded root, less
its error divided by twice the root. -/
def improved (major minor : Float) : Float :=
  let root := (major * major + minor * minor).sqrt
  let error :=
    if root ≤ 2 * minor then
      let d := root - minor
      major * (2 * d - major) + (d - 2 * (major - minor)) * d
    else
      let d := root - major
      2 * d * (major - 2 * minor) + ((4 * d - minor) * minor + d * d)
  root - error / (2 * root)

/-- The length for two finite components, `0 ≤ minor ≤ major`. -/
def ofComponents (major minor : Float) : Float :=
  if minor ≤ major * negligible then major + minor
  else if powerOfTwo 511 < major then improved (major * rescaling) (minor * rescaling) / rescaling
  else if minor < powerOfTwo (-459) then
    improved (major / rescaling) (minor / rescaling) * rescaling
  else improved major minor

/-- The length of a vector. An infinite component makes it infinite. -/
def ofVector (v : Coord) : Float :=
  let x := v.x.abs
  let y := v.y.abs
  if x.isInf then x
  else if y.isInf then y
  else if x.isNaN || y.isNaN then x + y
  else if x < y then ofComponents y x
  else ofComponents x y

end Length
end CatalogQuery
