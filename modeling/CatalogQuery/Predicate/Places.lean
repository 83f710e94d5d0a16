import CatalogQuery.Geometry.Centroid
import CatalogQuery.Geometry.Distance
import CatalogQuery.Geometry.Wkt.Writer
import CatalogQuery.Predicate.Sorting
import CatalogQuery.Predicate.Values
import CatalogQuery.Text.Case

/-!
# Searches by location

A geometry is compared with the one that is indexed, by a relation that the index computes. The
index does not compare with a bare point: a point is replaced by a small circle around it.

A geometry text that cannot be read goes into the query as it is where the index may still read
it, and is an error where the geometry itself is needed.

A search has a reference position if results can be sorted by their distance from something: the
center of its circle, or the centroid of its geometry. The compiler records it as soon as there is
a query.
-/

namespace CatalogQuery

/-- The relations that the index computes. -/
inductive Relation where
  | contains
  | isWithin
  | isDisjointTo
  | overlaps
  | intersects
  deriving DecidableEq, Repr

/-- The name of a relation in a query. -/
def Relation.name : Relation → Text
  | contains => "Contains".toList
  | isWithin => "IsWithin".toList
  | isDisjointTo => "IsDisjointTo".toList
  | overlaps => "Overlaps".toList
  | intersects => "Intersects".toList

namespace Compiler

/-! ## Clauses -/

/-- A clause for a relation with a shape. -/
def relationClause (field : Text) (r : Relation) (shape : Text) : Text :=
  clause field (phrase (r.name ++ '(' :: shape ++ [')']))

/-- A circle as a shape. -/
def circleText (center : Coord) (radius : Float) : Text :=
  "BUFFER(POINT(".toList ++ center.lonLat ++ "), ".toList ++ Decimal.double radius ++ [')']

/-- The geometry of the property is in a relation with a shape, of which the reference position is
known or not. -/
def related (c : Compiler) (r : Relation) (property shape : Text) (reference : Option Coord) :
    Compiled :=
  match c.field property .geometry false with
  | .error e => c.answering (.error e)
  | .ok f =>
    let recorded := c.recordReference property reference
    { result := .ok { query := relationClause f r shape }
      log := recorded.1
      after := recorded.2 }

/-- The geometry of the property meets a circle. -/
def meetsCircle (c : Compiler) (property : Text) (center : Coord) (radius : Float) : Compiled :=
  c.related .intersects property (circleText center radius) (some center)

/-! ## Geometry texts -/

/-- The event of a text that is not read. -/
def readingEvents (wkt : Text) : Except Wkt.ReadError Geometry → List Event
  | .ok _ => []
  | .error why => [.unreadableShape wkt why]

/-- The centroid of a geometry that was read. -/
def centroidRead? : Except Wkt.ReadError Geometry → Option Coord
  | .ok g => g.centroid?
  | .error _ => none

/-- The geometry of a text, or the error of a text that is not read. -/
def shape (wkt : Text) : Except CompileError Geometry :=
  match Wkt.read wkt with
  | .ok g => .ok g
  | .error why => .error (.badShape wkt (.unreadable why))

/-! ## Predicates -/

/-- The geometry of the property is in a relation with a geometry text. -/
def relatedToText (c : Compiler) (r : Relation) (property wkt : Text) : Compiled :=
  let read := Wkt.read wkt
  let out := c.related r property wkt (centroidRead? read)
  { out with log := readingEvents wkt read ++ out.log }

/-- The geometry of the property is in a relation with a geometry. -/
def spatial (c : Compiler) (r : Relation) (property wkt : Text) : Compiled :=
  if Text.isBlank wkt then c.answering (.error .wktRequired)
  else c.relatedToText r property wkt

/-- The position of a geometry text that speaks of a point and is one. -/
def pointRead? (wkt : Text) : Option Coord :=
  if Text.mentionsLetters "POINT".toList wkt then
    match Wkt.read wkt with
    | .ok g => g.singlePoint?
    | .error _ => none
  else none

/-- The geometry of the property meets a geometry. -/
def intersects (c : Compiler) (property wkt : Text) : Compiled :=
  if Text.isBlank wkt then c.answering (.error .wktRequired)
  else
    match pointRead? wkt with
    | some p => c.meetsCircle property p (Distance.metersToDegrees c.settings.pointErrorMeters)
    | none => c.relatedToText .intersects property wkt

/-- The places within a distance of a geometry. -/
inductive Reach where
  | circle (center : Coord) (radius : Float)
  | area (g : Geometry) (buffered : Bool)

/-- Is a distance a number of meters that something can be away? -/
def isDistance (meters : Float) : Bool := meters.isFinite && !(meters < 0)

/-- The places within a distance of a geometry: a circle around a point, a buffer around anything
else. A buffer without a width would be empty, so the geometry itself stands for it. -/
def reach (c : Compiler) (wkt : Text) (meters : Float) : Except CompileError Reach :=
  if Text.isBlank wkt then .error .wktRequired
  else if !isDistance meters then .error (.badDistance meters)
  else
    match shape wkt with
    | .error e => .error e
    | .ok g =>
      let degrees := Distance.metersToDegrees meters
      match g.point? with
      | some p => .ok (.circle p degrees)
      | none =>
        if 0 < degrees then
          .ok (.area (g.buffer c.draw degrees c.settings.quadrantSegments) true)
        else .ok (.area g false)

/-- The geometry of the property is within a distance of a geometry. -/
def withinDistance (c : Compiler) (property wkt : Text) (meters : Float) : Compiled :=
  match c.reach wkt meters with
  | .error e => c.answering (.error e)
  | .ok (.circle center radius) => c.meetsCircle property center radius
  | .ok (.area g _) => c.related .intersects property (Wkt.write g) g.centroid?

/-- The geometry of the property is near a geometry: within the limit of the settings of the point,
or of the centroid. -/
def nearestTo (c : Compiler) (property wkt : Text) : Compiled :=
  if Text.isBlank wkt then c.answering (.error .wktRequired)
  else
    match shape wkt with
    | .error e => c.answering (.error e)
    | .ok g =>
      match g.anchor? with
      | none => c.answering (.error (.badShape wkt .noCentroid))
      | some p =>
        c.meetsCircle property p (Distance.metersToDegrees
          (Distance.nauticalMilesToMeters c.settings.nearestNeighborLimitNauticalMiles))

end Compiler
end CatalogQuery
