import CatalogQuery.Geometry.Basic

/-!
# Writing well-known text

Geometries are written without white space but for the space between the two numbers of a
position. A geometry without parts is the word for its kind and `EMPTY`.
-/

namespace CatalogQuery
namespace Wkt

/-- Texts in parentheses, with commas. -/
def tuple (parts : List Text) : Text := '(' :: Text.join [','] parts ++ [')']

/-- A word and its parts, or the mark of no parts. -/
def tagged (word : Text) (parts : List Text) : Text :=
  if parts.isEmpty then word ++ " EMPTY".toList else word ++ tuple parts

/-- The positions of a line. -/
def lineText (line : List Coord) : Text := tuple (line.map Coord.lonLat)

/-- The rings of a polygon. An exterior without positions is left out. -/
def rings (p : Polygon) : List (List Coord) :=
  if p.exterior.isEmpty then p.holes else p.exterior :: p.holes

/-- A polygon as well-known text. One without positions in its first ring counts as empty. -/
def polygonText (p : Polygon) : Text :=
  match rings p with
  | [] :: _ => tagged "POLYGON".toList []
  | rs => tagged "POLYGON".toList (rs.map lineText)

/-- A geometry as well-known text. -/
def write : Geometry → Text
  | .point c => "POINT".toList ++ tuple [c.lonLat]
  | .lineString l => tagged "LINESTRING".toList (l.map Coord.lonLat)
  | .polygon p => polygonText p
  | .multiPoint cs => tagged "MULTIPOINT".toList (cs.map fun c => tuple [c.lonLat])
  | .multiLineString ls => tagged "MULTILINESTRING".toList (ls.map lineText)
  | .multiPolygon ps =>
    tagged "MULTIPOLYGON".toList (ps.map fun p => tuple ((rings p).map lineText))
  | .collection gs => tagged "GEOMETRYCOLLECTION".toList (writeAll gs)
where
  /-- Each of several geometries as well-known text. -/
  writeAll : List Geometry → List Text
    | [] => []
    | g :: gs => write g :: writeAll gs

end Wkt
end CatalogQuery
