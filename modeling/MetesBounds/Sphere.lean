import MetesBounds.Point.Checked
import MetesBounds.Reckoning

/-!
# `Sphere` — great circles

Two problems are solved on a sphere. The *forward* problem: where does a great circle lead that
leaves a point on a bearing and is followed for a distance? The *inverse* problem: on which
bearing does the great circle between two points leave the first, on which does it lead back from
the second, and how long is it?

Both are solved by a library, of which no more than a `SphereLibrary` is asked: the great circles of
a sphere of a radius, on doubles. What is decided here is which radius a sphere can have, how points,
distances and bearings become doubles, and that angles come out within one turn.

Main definitions: `SphereLibrary.ofRadius`, `SphereLibrary.destination` and `SphereLibrary.inverse`.
-/

set_option autoImplicit false

namespace MetesBounds

/-- What the inverse problem answers: the bearing at the first point toward the second, the
bearing at the second back toward the first, and the distance. -/
structure Sphere.Inverse where
  forward : Float
  back : Float
  distance : Float

/-- The great circles of one sphere, in degrees and metres. -/
structure GreatCircles where
  /-- Latitude and longitude of the point that lies at a distance on a bearing of another. -/
  forward (latitude longitude bearing distance : Float) : Float × Float
  /-- The great circle from one point to another. -/
  inverse (latitude longitude latitude' longitude' : Float) : Sphere.Inverse

/-- What is asked of a library of great circles. -/
structure SphereLibrary where
  /-- The great circles of a sphere of a radius, if it is one that can be reckoned with. -/
  greatCircles : Number → Except Error GreatCircles

/-! ## On one sphere -/

namespace GreatCircles

variable (g : GreatCircles)

/-- The point where a great circle leads. -/
def destination (origin : Point) (distance bearing : Float) : Except Error Point := do
  let (latitude, longitude) :=
    g.forward (← origin.latitude.toFloat) (← origin.reckonedLongitude) bearing distance
  Point.checked (.real latitude) (.real longitude)

/-- The great circle between two points, with bearings within one turn. -/
def between (start finish : Point) : Except Error Sphere.Inverse := do
  start.checkRows
  finish.checkRows
  let i := g.inverse (← start.latitude.toFloat) (← start.reckonedLongitude)
    (← finish.latitude.toFloat) (← finish.reckonedLongitude)
  return ⟨Reckoning.double.wrap i.forward, Reckoning.double.wrap i.back, i.distance⟩

end GreatCircles

/-! ## On a sphere of given radius -/

/-- The radius of the earth's sphere, in metres, where nothing else is given. -/
def Sphere.earthRadius : Float := 6371000.0

/-- A distance to follow a great circle for: a number, a numeral, or a row of one number. Beside a
longitude in a row a number that is too large is refused like anything else that is none. -/
def Sphere.distanceOfValue (besideRow : Bool) (distance : Value) : Except Error Float :=
  match distance with
  | .number n => if besideRow then n.toFloat.mapError fun _ => .notAScalar else n.toFloat
  | .text s =>
    match Decimal.read? s with
    | some x => .ok x
    | none => .error .notAScalar
  | .row items => do
    let xs ← items.mapM fun item =>
      match item with
      | .number n => n.toFloat
      | v => .error (.noRealNumber v.kindName)
    match xs with
    | [x] => return x
    | _ => .error .unequalRows
  | _ => .error .notAScalar

namespace SphereLibrary

variable (l : SphereLibrary)

/-- The great circles of a sphere whose radius was given, which has to be positive. -/
def ofRadius (radius : Value) : Except Error GreatCircles :=
  match radius.unkeyed? with
  | some kind => .error (.unhashable kind)
  | none =>
    match radius with
    | .number n =>
      if n.atMost 0 then .error (radius.blamedPlain .sphereRadius) else l.greatCircles n
    | v => .error (.noOrder "<=" v.kindName "int")

/-- The point that a great circle leads to. The bearing is a number or numeral. -/
def destination (radius : Value) (origin : Point) (distance : Float) (bearing : Value) :
    Except Error Point := do
  let g ← l.ofRadius radius
  g.destination origin distance (← bearing.wrapped)

/-- The point that a great circle leads to; the bearing is a number or numeral. -/
def destinationOfValues (radius : Value) (origin : Point) (distance bearing : Value) :
    Except Error Point := do
  let g ← l.ofRadius radius
  let b ← bearing.wrapped
  origin.checkRows
  g.destination origin (← Sphere.distanceOfValue (origin.rows ≠ 0) distance) b

/-- The great circle between two points. -/
def inverse (radius : Value) (start finish : Point) : Except Error Sphere.Inverse := do
  (← l.ofRadius radius).between start finish

/-- The direction in which the great circle from one point arrives at another. -/
def finalBearing (radius : Value) (start finish : Point) : Except Error Float := do
  return Reckoning.double.wrap ((← l.inverse radius finish start).forward + 180.0)

end SphereLibrary

end MetesBounds
