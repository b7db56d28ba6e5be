import MetesBounds.Error

/-!
# `Wkt` — points as well-known text

Geometry is exported as points, line strings and polygons, longitude first. The ring of a polygon
is closed by repeating its first point, unless it already ends where it began. A row joins the
text of a geometry with its name and description, each in quotation marks as it stands.
-/

set_option autoImplicit false

namespace MetesBounds

/-- A point as a pair of exported coordinates. -/
def Point.pair (p : Point) : String := p.longitudeText ++ " " ++ p.latitude.text

namespace Wkt

/-- Points as a list of coordinate pairs. -/
def coordinates (points : List Point) : String := ",".intercalate (points.map Point.pair)

/-- A single point. -/
def point (p : Point) : String := "POINT (" ++ p.pair ++ ")"

/-- A line along points. -/
def lineString (points : List Point) : String :=
  if points.isEmpty then "LINESTRING EMPTY" else "LINESTRING (" ++ coordinates points ++ ")"

/-- Points as a closed ring. -/
def ring : List Point → List Point
  | [] => []
  | first :: rest =>
    if ((first :: rest).getLastD first).same first then first :: rest else first :: rest ++ [first]

/-- A polygon with points as its only ring, which has to have four positions. -/
def polygon (points : List Point) : Except Error String :=
  if points.isEmpty then .ok "POLYGON EMPTY"
  else if (ring points).length < 4 then .error (.openRing points.length)
  else .ok ("POLYGON ((" ++ coordinates (ring points) ++ "))")

/-- A geometry with a name and a description, as one row. -/
def row (geometry name description : String) : String :=
  "\x22" ++ geometry ++ "\x22, \x22" ++ name ++ "\x22, \x22" ++ description ++ "\x22"

end Wkt

end MetesBounds
