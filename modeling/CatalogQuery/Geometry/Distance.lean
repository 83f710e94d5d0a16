/-!
# Distances on the surface of the earth

Spatial searches measure in degrees of arc. The earth is taken for a sphere of its mean radius.
-/

namespace CatalogQuery
namespace Distance

/-- The mean radius of the earth in kilometers. -/
def earthRadius : Float := 6371.0087714

/-- The degrees in one radian. -/
def degreesPerRadian : Float := 57.29577951308232

/-- The meters in a nautical mile. -/
def metersPerNauticalMile : Float := 1852

/-- A distance in meters as degrees of arc. -/
def metersToDegrees (meters : Float) : Float := meters / 1000 / earthRadius * degreesPerRadian

/-- A distance in nautical miles as meters. -/
def nauticalMilesToMeters (miles : Float) : Float := miles * metersPerNauticalMile

end Distance
end CatalogQuery
