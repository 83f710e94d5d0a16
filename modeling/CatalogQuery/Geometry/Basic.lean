import CatalogQuery.Decimal.Layout

/-!
# Plane geometries

Geometries have coordinates in double precision, `x` being the longitude and `y` the latitude.

* `Coord`, with its componentwise arithmetic;
* `Polygon`: an exterior ring and holes, each closed by `closeRing`;
* `Geometry`: the seven kinds of geometry;
* `Geometry.point?`, `Geometry.singlePoint?`: geometries that are one point.
-/

namespace CatalogQuery

/-- A position in the plane. -/
structure Coord where
  x : Float
  y : Float

namespace Coord

/-- The origin. -/
def zero : Coord := ⟨0, 0⟩

/-- The sum of two positions as vectors. -/
def add (a b : Coord) : Coord := ⟨a.x + b.x, a.y + b.y⟩

/-- The vector from `b` to `a`. -/
def sub (a b : Coord) : Coord := ⟨a.x - b.x, a.y - b.y⟩

/-- A vector so many times as long. -/
def scale (a : Coord) (k : Float) : Coord := ⟨a.x * k, a.y * k⟩

/-- A vector so many times shorter. -/
def shrink (a : Coord) (k : Float) : Coord := ⟨a.x / k, a.y / k⟩

instance : Add Coord := ⟨add⟩
instance : Sub Coord := ⟨sub⟩

/-- The signed area of the parallelogram over two vectors. -/
def cross (a b : Coord) : Float := a.x * b.y - a.y * b.x

/-- Are two positions equal as numbers? A position that is not a number equals none. -/
def same (a b : Coord) : Bool := a.x == b.x && a.y == b.y

/-- Latitude and longitude, the order of distance sorting. -/
def latLon (a : Coord) : Text := Decimal.double a.y ++ ',' :: Decimal.double a.x

/-- Longitude and latitude, the order of geometry texts. -/
def lonLat (a : Coord) : Text := Decimal.double a.x ++ ' ' :: Decimal.double a.y

end Coord

/-- An area: a ring around it and the rings around its holes. -/
structure Polygon where
  exterior : List Coord
  holes : List (List Coord)

/-- Does a ring end where it begins? -/
def isClosed (ring : List Coord) : Bool :=
  match ring.head?, ring.getLast? with
  | some a, some b => a.same b
  | _, _ => true

/-- A ring that ends where it begins: its first position comes again unless it is there. -/
def closeRing (ring : List Coord) : List Coord :=
  if isClosed ring then ring else ring ++ ring.take 1

/-- A polygon from its rings, the exterior first. -/
def Polygon.ofRings : List (List Coord) → Polygon
  | [] => ⟨[], []⟩
  | ring :: holes => ⟨closeRing ring, holes.map closeRing⟩

/-- A geometry of one of seven kinds. -/
inductive Geometry where
  | point (at_ : Coord)
  | lineString (line : List Coord)
  | polygon (area : Polygon)
  | multiPoint (points : List Coord)
  | multiLineString (lines : List (List Coord))
  | multiPolygon (areas : List Polygon)
  | collection (members : List Geometry)

namespace Geometry

/-- The position of a point. -/
def point? : Geometry → Option Coord
  | point c => some c
  | _ => none

/-- The position of a point, or of a set of exactly one point. -/
def singlePoint? : Geometry → Option Coord
  | point c => some c
  | multiPoint [c] => some c
  | _ => none

end Geometry
end CatalogQuery
