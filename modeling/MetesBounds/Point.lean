import MetesBounds.Number

/-!
# `Point` — a point on the sphere, in degrees

Latitude comes first in the type and in messages, longitude first in exported geometry. A point
keeps its coordinates as they were given; `Point.checked` in `Point/Checked` is how one is made from
unchecked coordinates. A longitude may be given as the only item of a row, which may be the only
item of another; such a point can be shown and exported, but nothing can be reckoned with it.
-/

set_option autoImplicit false

namespace MetesBounds

/-- A point: latitude and longitude in degrees, positive north and east. `rows` counts the rows
that the longitude stands in, one inside the other. -/
structure Point where
  latitude : Number
  longitude : Number
  rows : Nat := 0

namespace Point

/-- A text in rows of one item, one inside the other. -/
def inRows (s : String) : Nat → String
  | 0 => s
  | n + 1 => "(" ++ inRows s n ++ ",)"

/-- The longitude as it was given. -/
def longitudeText (p : Point) : String := inRows p.longitude.text p.rows

/-- The point as messages show it. -/
def shown (p : Point) : String :=
  "GeoPoint(latitude=" ++ p.latitude.text ++ ", longitude=" ++ p.longitudeText ++ ")"

/-- Equality of positions, coordinate by coordinate. -/
def same (p q : Point) : Bool :=
  p.latitude.same q.latitude && p.rows == q.rows && p.longitude.same q.longitude

end Point

end MetesBounds
