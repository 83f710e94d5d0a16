import CatalogQuery.Geometry.Length

/-!
# Centroids

The centroid of a geometry is the weighted mean of the centroids of its parts, of which only those
of the highest dimension count: areas before lines before points. Areas weigh as much as they
cover, lines as long as they are, and points weigh the same. Holes are taken out of their polygon.

Parts are added to a `Mass` one by one, in the order in which they stand in the geometry.
-/

namespace CatalogQuery

/-- The sum of weighted centroids of parts of one dimension. -/
structure Mass where
  dimension : Nat
  weight : Float
  sum : Coord

namespace Mass

/-- A part with its centroid and weight. -/
def ofPart (dimension : Nat) (centroid : Coord) (weight : Float) : Mass :=
  ⟨dimension, weight, centroid.scale weight⟩

/-- Both masses together, if they have the same dimension, otherwise the one of higher
dimension. -/
def join (a b : Mass) : Mass :=
  if a.dimension < b.dimension then b
  else if b.dimension < a.dimension then a
  else ⟨a.dimension, a.weight + b.weight, a.sum + b.sum⟩

/-- The mass `b` taken out of the mass `a`. -/
def remove (a b : Mass) : Mass :=
  if a.dimension < b.dimension then b
  else if b.dimension < a.dimension then a
  else ⟨a.dimension, a.weight - b.weight, a.sum - b.sum⟩

/-- The mean position. -/
def centroid (a : Mass) : Coord := a.sum.shrink a.weight

/-! ## Adding parts -/

/-- One more mass. -/
def add (acc : Option Mass) (m : Mass) : Option Mass :=
  match acc with
  | none => some m
  | some a => some (a.join m)

/-- Has a part of dimension `d` or higher been added? -/
def reaches (acc : Option Mass) (d : Nat) : Bool :=
  match acc with
  | none => false
  | some a => decide (d ≤ a.dimension)

/-- One more position. -/
def addCoord (acc : Option Mass) (c : Coord) : Option Mass := add acc (ofPart 0 c 1)

/-- One more straight piece of a line. -/
def addSegment (acc : Option Mass) (a b : Coord) : Option Mass :=
  if a.same b then addCoord acc a
  else add acc (ofPart 1 ((a + b).shrink 2) (Length.ofVector (b - a)))

/-- One more line, which does not count beside areas. -/
def addLine (acc : Option Mass) (line : List Coord) : Option Mass :=
  if reaches acc 2 then acc
  else
    match line with
    | [c] => addCoord acc c
    | _ => (line.zip (line.drop 1)).foldl (fun acc s => addSegment acc s.1 s.2) acc

/-- Twice the signed area within a ring, seen from its first position. -/
def doubleArea (ring : List Coord) : Float :=
  match ring with
  | a :: _ :: _ :: _ =>
    if isClosed ring then
      (ring.zip (ring.drop 1)).foldl (fun sum s => sum + (s.1 - a).cross (s.2 - a)) 0
    else 0
  | _ => 0

/-- The signed area within a ring. -/
def area (ring : List Coord) : Float := doubleArea ring / 2

/-- One more ring with what it surrounds. A ring around nothing counts as a line, or as a point if
it never leaves its first position. -/
def addRing (acc : Option Mass) (ring : List Coord) : Option Mass :=
  match ring with
  | [] => acc
  | first :: _ =>
    let area := area ring
    if area == 0 then
      if ring.all first.same then addCoord acc first else addLine acc ring
    else
      let moment := (ring.zip (ring.drop 1)).foldl (fun sum s =>
        let a := s.1 - first
        let b := s.2 - first
        sum + (b + a).scale (a.cross b)) Coord.zero
      add acc (ofPart 2 (moment.shrink (6 * area) + first) area.abs)

/-- One more polygon. One that is all hole counts as the line around it. -/
def addPolygon (acc : Option Mass) (p : Polygon) : Option Mass :=
  match addRing none p.exterior with
  | none => acc
  | some outer =>
    match p.holes.foldl addRing none with
    | none => add acc outer
    | some inner =>
      let rest := outer.remove inner
      if rest.weight == 0 then addLine acc p.exterior else add acc rest

end Mass

namespace Geometry

/-- One more geometry. -/
def addTo (acc : Option Mass) : Geometry → Option Mass
  | point c => Mass.addCoord acc c
  | lineString l => Mass.addLine acc l
  | polygon p => Mass.addPolygon acc p
  | multiPoint cs => if Mass.reaches acc 1 then acc else cs.foldl Mass.addCoord acc
  | multiLineString ls => if Mass.reaches acc 2 then acc else ls.foldl Mass.addLine acc
  | multiPolygon ps => ps.foldl Mass.addPolygon acc
  | collection gs => addAllTo acc gs
where
  /-- One more list of geometries. -/
  addAllTo (acc : Option Mass) : List Geometry → Option Mass
    | [] => acc
    | g :: gs => addAllTo (addTo acc g) gs

/-- The centroid of a geometry; one without positions has none. A point is its own centroid. -/
def centroid? : Geometry → Option Coord
  | point c => some c
  | g => (addTo none g).map Mass.centroid

/-- The position of a point, the centroid of anything else. -/
def anchor? (g : Geometry) : Option Coord := g.point? <|> g.centroid?

end Geometry
end CatalogQuery
