import CatalogQuery.Geometry.Basic

/-!
# Buffers

The buffer of a geometry is the area within a distance of it. A library of plane geometry draws
it, and is told the distance and how fine the round parts are to be drawn. What it draws is a
parameter here: any areas at all, the same for the same style and geometry.

* `BufferStyle.round`: the style for a number of straight pieces of a quarter circle;
* `Drawing`: the library, as far as it is asked for buffers;
* `Geometry.buffer`: the areas that it draws, as one geometry.
-/

namespace CatalogQuery

/-- How a buffer is drawn: its distance, and the angles of one straight piece of a round join and
of a round line end. -/
structure BufferStyle where
  distance : Float
  joinAngle : Float
  capAngle : Float

namespace BufferStyle

/-- The angle of a quarter circle. -/
def rightAngle : Float := 1.5707963267948966

/-- Joins and line ends are round, with so many straight pieces of a quarter circle, one at
least. -/
def round (distance : Float) (quadrantSegments : UInt32) : BufferStyle :=
  let angle := rightAngle / Float.ofNat (max quadrantSegments.toNat 1)
  ⟨distance, angle, angle⟩

end BufferStyle

/-- A library that draws buffers: the areas that the buffer of a geometry consists of. -/
abbrev Drawing := BufferStyle → Geometry → List Polygon

/-- The area within a distance of a geometry. -/
def Geometry.buffer (draw : Drawing) (distance : Float) (quadrantSegments : UInt32)
    (g : Geometry) : Geometry :=
  .multiPolygon (draw (.round distance quadrantSegments) g)

end CatalogQuery
