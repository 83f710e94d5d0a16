import CatalogQuery.Text.Basic

/-!
# Settings

What can be adjusted in the compilation of predicates. Every setting has a default.
-/

namespace CatalogQuery

/-- The settings of a compiler. -/
structure Settings where
  /-- The property that stands for every field with free text. -/
  anyTextProperty : Text := "anyText".toList
  /-- The property with the whole structured document. -/
  metadataProperty : Text := "metadata".toList
  /-- The property that asks for an order by distance. -/
  distanceProperty : Text := "distance".toList
  /-- The radius of the circle that stands for a point. -/
  pointErrorMeters : Float := 1
  /-- How far away the nearest neighbours are looked for. -/
  nearestNeighborLimitNauticalMiles : Float := 1000
  /-- The number of straight pieces of a quarter circle in a buffer. -/
  quadrantSegments : UInt32 := 12

end CatalogQuery
