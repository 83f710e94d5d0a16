import CatalogQuery.Index.Settings
import CatalogQuery.Json.Fields
import CatalogQuery.Json.Reader
import CatalogQuery.Json.Writer

/-!
# Settings in JSON

A settings document lists the settings that differ from their defaults.
-/

namespace CatalogQuery
namespace Settings

/-- The names of the settings. -/
def fieldNames : List Text :=
  ["any_text_property".toList, "metadata_property".toList, "distance_property".toList,
   "point_error_meters".toList, "nearest_neighbor_limit_nautical_miles".toList,
   "quadrant_segments".toList]

/-- Settings as JSON. -/
def toJson (s : Settings) : Text :=
  Json.object [
    ("any_text_property".toList, Json.string s.anyTextProperty),
    ("metadata_property".toList, Json.string s.metadataProperty),
    ("distance_property".toList, Json.string s.distanceProperty),
    ("point_error_meters".toList, Json.number .exact64 (.ofDouble s.pointErrorMeters)),
    ("nearest_neighbor_limit_nautical_miles".toList,
      Json.number .exact64 (.ofDouble s.nearestNeighborLimitNauticalMiles)),
    ("quadrant_segments".toList, Decimal.natural s.quadrantSegments.toNat)]

/-- The number of pieces of a quarter circle from JSON. -/
def segments? (v : Json.Value) : Option UInt32 :=
  (v.wholeBetween? 0 (UInt32.size - 1)).map fun z => UInt32.ofNat z.toNat

/-- Settings from JSON. -/
def ofJson? (v : Json.Value) : Option Settings := do
  let s : Settings := {}
  match ← v.fields? fieldNames with
  | [anyText, metadata, distance, pointError, limit, segments] =>
    pure {
      anyTextProperty := ← Json.Value.optional Json.Value.text? s.anyTextProperty anyText
      metadataProperty := ← Json.Value.optional Json.Value.text? s.metadataProperty metadata
      distanceProperty := ← Json.Value.optional Json.Value.text? s.distanceProperty distance
      pointErrorMeters := ← Json.Value.optional Json.Value.double? s.pointErrorMeters pointError
      nearestNeighborLimitNauticalMiles :=
        ← Json.Value.optional Json.Value.double? s.nearestNeighborLimitNauticalMiles limit
      quadrantSegments := ← Json.Value.optional segments? s.quadrantSegments segments }
  | _ => none

/-- Settings from the text of a settings document. -/
def parse? (t : Text) : Option Settings := (Json.read? t).bind ofJson?

end Settings
end CatalogQuery
