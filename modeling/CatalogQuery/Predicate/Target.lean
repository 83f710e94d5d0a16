import CatalogQuery.Predicate.Basic

/-!
# Targets of searches by location

A search by location compares the geometry of a property with a target. `Predicate.HasTarget` says
which one, for each way to search:

* the plain relations, and `intersects` with anything but a point, take the geometry text as it was
  given, readable or not;
* `intersects` with a point, `withinDistance` of a point and `nearestTo` take a circle;
* `withinDistance` of anything else takes the geometry with a buffer around it, or the geometry
  itself if the buffer would have no width.

The target is what the query speaks of, and distances are measured from it: from the center of a
circle, otherwise from the centroid of the geometry.
-/

namespace CatalogQuery

/-- What a search by location compares the geometry of a property with. -/
inductive Target where
  /-- The places within so many degrees of a position. -/
  | circle (center : Coord) (radius : Float)
  /-- A geometry text, as it was given. -/
  | given (wkt : Text)
  /-- A geometry that was made for the search. -/
  | area (g : Geometry)

namespace Target

/-- A target as it stands in a query. -/
def text : Target → Text
  | circle center radius => Compiler.circleText center radius
  | given wkt => wkt
  | area g => Wkt.write g

/-- The position from which distances to a target are measured. A text that cannot be read has
none, and neither has a geometry without a centroid. -/
def reference? : Target → Option Coord
  | circle center _ => some center
  | given wkt =>
    match Wkt.read wkt with
    | .ok g => g.centroid?
    | .error _ => none
  | area g => g.centroid?

end Target

namespace Predicate

/-- The relation and the target of a search by location. -/
inductive HasTarget (settings : Settings) (draw : Drawing) :
    Predicate → Relation → Target → Prop where
  | contains {property wkt : Text} (said : Text.isBlank wkt = false) :
      HasTarget settings draw (.contains property wkt) .contains (.given wkt)
  | within {property wkt : Text} (said : Text.isBlank wkt = false) :
      HasTarget settings draw (.within property wkt) .isWithin (.given wkt)
  | disjoint {property wkt : Text} (said : Text.isBlank wkt = false) :
      HasTarget settings draw (.disjoint property wkt) .isDisjointTo (.given wkt)
  | overlaps {property wkt : Text} (said : Text.isBlank wkt = false) :
      HasTarget settings draw (.overlaps property wkt) .overlaps (.given wkt)
  | intersectsPoint {property wkt : Text} {p : Coord} (said : Text.isBlank wkt = false)
      (found : Compiler.pointRead? wkt = some p) :
      HasTarget settings draw (.intersects property wkt) .intersects
        (.circle p (Distance.metersToDegrees settings.pointErrorMeters))
  | intersectsText {property wkt : Text} (said : Text.isBlank wkt = false)
      (found : Compiler.pointRead? wkt = none) :
      HasTarget settings draw (.intersects property wkt) .intersects (.given wkt)
  | withinDistanceOfPoint {property wkt : Text} {meters : Float} {p : Coord}
      (said : Text.isBlank wkt = false) (distance : Compiler.isDistance meters = true)
      (read : Wkt.read wkt = .ok (.point p)) :
      HasTarget settings draw (.withinDistance property wkt meters) .intersects
        (.circle p (Distance.metersToDegrees meters))
  | withinDistanceOfShape {property wkt : Text} {meters : Float} {g : Geometry}
      (said : Text.isBlank wkt = false) (distance : Compiler.isDistance meters = true)
      (read : Wkt.read wkt = .ok g) (extended : g.point? = none)
      (wide : 0 < Distance.metersToDegrees meters) :
      HasTarget settings draw (.withinDistance property wkt meters) .intersects
        (.area (g.buffer draw (Distance.metersToDegrees meters) settings.quadrantSegments))
  | withinNoDistanceOfShape {property wkt : Text} {meters : Float} {g : Geometry}
      (said : Text.isBlank wkt = false) (distance : Compiler.isDistance meters = true)
      (read : Wkt.read wkt = .ok g) (extended : g.point? = none)
      (narrow : ¬0 < Distance.metersToDegrees meters) :
      HasTarget settings draw (.withinDistance property wkt meters) .intersects (.area g)
  | nearestTo {property wkt : Text} {g : Geometry} {p : Coord} (said : Text.isBlank wkt = false)
      (read : Wkt.read wkt = .ok g) (anchored : g.anchor? = some p) :
      HasTarget settings draw (.nearestTo property wkt) .intersects
        (.circle p (Distance.metersToDegrees
          (Distance.nauticalMilesToMeters settings.nearestNeighborLimitNauticalMiles)))

end Predicate

namespace Compiler

/-- The query about a target. -/
def targetQuery (c : Compiler) (property : Text) (r : Relation) (t : Target) : Fragment :=
  { query := relationClause (c.schema.field property .geometry false) r t.text }

/-- What comes of a search is about a target: the query is, and what is recorded is the position
from which distances to the target are measured. -/
structure IsAbout (c : Compiler) (property : Text) (r : Relation) (t : Target) (out : Compiled) :
    Prop where
  result : out.result = .ok (c.targetQuery property r t)
  after : out.after = (c.recordReference property t.reference?).2

end Compiler
end CatalogQuery
