import MetesBounds.Instruments
import MetesBounds.Measure.Known

/-!
# `Instruments/Known` — the libraries that the command is run with

Units are those of `Measure/Known`, and great circles are reckoned with doubles. Angles are reduced
in degrees, where it can be done exactly, before they go into a trigonometric function; so the points
of the compass and the poles need no tolerance. At a pole every bearing is measured from the meridian
that the point was given on. Between coincident points the great
circle leads toward the equator, and between antipodes over the pole of the starting point's
hemisphere. On the equator the sign of the zero says which hemisphere that is.

Main definitions: `SphereLibrary.known` and `Instruments.known`.
-/

set_option autoImplicit false

namespace MetesBounds.Sphere

/-- The length of one degree of arc on the unit circle. -/
def degree : Float := 0.017453292519943295

/-- The smallest distance from the earth's axis, in place of zero, so that a point at a pole still
lies on its meridian. -/
def leastRadius : Float := 1.4916681462400413e-154

/-- The longest side of a right triangle, given the others, the longer one first; they are neither
so short nor so long that their squares are lost. The root of the sum of squares is corrected by
what its own square misses of that sum. -/
def hypotenuseOf (a b : Float) : Float :=
  let h := (a * a + b * b).sqrt
  let missed :=
    if h ≤ 2.0 * b then
      let d := h - b
      a * (2.0 * d - a) + (d - 2.0 * (a - b)) * d
    else
      let d := h - a
      2.0 * d * (a - 2.0 * b) + ((4.0 * d - b) * b + d * d)
  h - missed / (2.0 * h)

/-- The longest side of a right triangle, given the others. Short ones are lengthened first. -/
def hypotenuse (x y : Float) : Float :=
  let a := if x.abs < y.abs then y.abs else x.abs
  let b := if x.abs < y.abs then x.abs else y.abs
  if a + b == a then a
  else if a < 1.0e-100 then (hypotenuseOf (a.scaleB 600) (b.scaleB 600)).scaleB (-600)
  else hypotenuseOf a b

/-- An angle in degrees between −180 and 180, by an exact remainder. Of the half turns each keeps
its sign. -/
def halfTurns (x : Float) : Float :=
  let r := Binary64.remainder x 360
  if 180.0 < r then r - 360.0 else if r < -180.0 then r + 360.0 else r

/-- An angle in degrees; a small one rounded to a multiple of the last place of a sixteenth, so
that next to nothing counts as nothing. The sign is kept. -/
def settled (x : Float) : Float :=
  let w := 0.0625 - x.abs
  Binary64.withSign (if 0.0 < w then 0.0625 - w else x.abs) x

/-- Sine and cosine of an angle in degrees, exact at multiples of 90. A sine of zero has the sign
of its angle. -/
def sineCosine (x : Float) : Float × Float :=
  let r := halfTurns x
  let quarter :=
    if r ≤ -135.0 then -2.0 else if r < -45.0 then -1.0 else if r ≤ 45.0 then 0.0
    else if r < 135.0 then 1.0 else 2.0
  let rest := (r - 90.0 * quarter) * degree
  let s := rest.sin
  let c := rest.cos
  let (sine, cosine) :=
    if quarter == 0.0 then (s, c)
    else if quarter == 1.0 then (c, -s)
    else if quarter == -1.0 then (-c, s)
    else (-s, -c)
  (if sine == 0.0 then Binary64.withSign sine x else sine, cosine + 0.0)

/-- The angle of a point in the plane, in degrees, exact on the axes. -/
def angleOf (y x : Float) : Float :=
  if y.abs ≤ x.abs then
    if Binary64.isNegative x then Binary64.withSign 180.0 y - y.atan2 (-x) / degree
    else y.atan2 x / degree
  else if Binary64.isNegative y then -90.0 + x.atan2 (-y) / degree
  else 90.0 - x.atan2 y / degree

/-- The difference of two longitudes, between −180 and 180 degrees, and what rounding took from
it. -/
def longitudeDifference (first second : Float) : Float × Float :=
  let a := -(halfTurns first)
  let b := halfTurns second
  let d := a + b
  let a' := d - b
  let b' := d - a'
  (d, (a - a') + (b - b'))

/-! ## The forward problem -/

/-- Latitude and longitude of the end of a great circle that leaves a point on a bearing, all in
degrees, and is followed along an arc given in radians. On a meridian the longitude turns by
nothing or by half a turn; the signs of the zeros say in which direction. -/
def follow (latitude longitude bearing arc : Float) : Float × Float :=
  let (sinBearing, cosBearing) := sineCosine (settled (halfTurns bearing))
  let (sinRaw, cosRaw) := sineCosine (settled latitude)
  let unit := hypotenuse sinRaw cosRaw
  let sinLat := sinRaw / unit
  let cosLat := if cosRaw / unit < leastRadius then leastRadius else cosRaw / unit
  -- the great circle crosses the equator on the bearing whose sine and cosine these are
  let sinNode := sinBearing * cosLat
  let cosNode := hypotenuse cosBearing (sinBearing * sinLat)
  -- arc and longitude of the start, measured from that crossing
  let startEast := sinNode * sinLat
  let startNorth := if sinLat != 0.0 || cosBearing != 0.0 then cosLat * cosBearing else 1.0
  let size := hypotenuse sinLat startNorth
  let sinStart := sinLat / size
  let cosStart := startNorth / size
  let sinEnd := sinStart * arc.cos + cosStart * arc.sin
  let cosEnd := cosStart * arc.cos - sinStart * arc.sin
  let radius := hypotenuse sinNode (cosNode * cosEnd)
  let (radius, cosEnd) := if radius == 0.0 then (leastRadius, leastRadius) else (radius, cosEnd)
  let endEast := sinNode * sinEnd
  let turned := (endEast * startNorth - cosEnd * startEast).atan2
    (cosEnd * startNorth + endEast * startEast)
  (angleOf (cosNode * sinEnd) radius,
    halfTurns (halfTurns longitude + halfTurns (turned / degree)))

/-! ## The inverse problem -/

/-- The great circle between two points: the bearing at the first toward the second and at the
second back toward the first, in degrees, and its arc in radians. -/
structure Between where
  leaving : Float
  back : Float
  arc : Float

/-- The arc between two points, from the sines and cosines of their latitudes and of half the
difference of their longitudes and of their latitudes. -/
def arcBetween (sin1 cos1 sin2 cos2 sinDiff cosDiff : Float) : Float :=
  let east := cos2 * sinDiff
  let north := cos1 * sin2 - sin1 * cos2 * cosDiff
  (hypotenuse east north).atan2 (sin1 * sin2 + cos1 * cos2 * cosDiff)

/-- The bearing on which the great circle leaves the first of two points. The northward part is
written as the sine of a sum or difference of latitudes and a small correction, so that close
points and near antipodes lose no digits. -/
def bearingFrom (lat1 sin1 lat2 cos2 diff sinDiff cosDiff : Float) : Float :=
  let east := cos2 * sinDiff
  let north :=
    if 0.0 ≤ cosDiff then
      let half := (sineCosine (diff / 2.0)).1
      (sineCosine (lat2 - lat1)).1 + 2.0 * sin1 * cos2 * half * half
    else
      let half := (sineCosine (diff / 2.0)).2
      (sineCosine (lat2 + lat1)).1 - 2.0 * sin1 * cos2 * half * half
  angleOf east north

/-- The great circle from one point to another, given in degrees. -/
def between (lat1 lon1 lat2 lon2 : Float) : Between :=
  let lat1 := settled lat1
  let lat2 := settled lat2
  let (diff, rest) := longitudeDifference lon1 lon2
  let rest := settled rest
  let (sinRaw, cosRaw) := sineCosine (settled diff)
  let sinDiff := sinRaw + cosRaw * rest * degree
  let cosDiff := cosRaw - sinRaw * rest * degree
  let (sin1, cos1) := sineCosine lat1
  let (sin2, cos2) := sineCosine lat2
  let arc := arcBetween sin1 cos1 sin2 cos2 sinDiff cosDiff
  let south := Binary64.isNegative lat1
  if lat1 == 90.0 then ⟨180.0 - diff, 0.0, arc⟩
  else if lat1 == -90.0 then ⟨diff, 180.0, arc⟩
  else if lat2 == 90.0 then ⟨0.0, 180.0 + diff, arc⟩
  else if lat2 == -90.0 then ⟨180.0, -diff, arc⟩
  else if sinDiff == 0.0 && 0.0 < cosDiff && lat1 == lat2 then
    if south then ⟨0.0, 180.0, 0.0⟩ else ⟨180.0, 0.0, 0.0⟩
  else if sinDiff == 0.0 && cosDiff < 0.0 && lat1 + lat2 == 0.0 then
    if south then ⟨180.0, 180.0, arc⟩ else ⟨0.0, 0.0, arc⟩
  else
    ⟨bearingFrom lat1 sin1 lat2 cos2 diff sinDiff cosDiff,
      bearingFrom lat2 sin2 lat1 cos1 (-diff) (-sinDiff) cosDiff, arc⟩

/-! ## A sphere of given radius -/

/-- Latitude and longitude of the end of a great circle on a sphere of a radius. Where any number
that goes in is not finite, no number comes out. -/
def forward (radius latitude longitude bearing distance : Float) : Float × Float :=
  let arc := distance / radius
  if radius.isFinite && arc.isFinite && bearing.isFinite then follow latitude longitude bearing arc
  else (0.0 / 0.0, 0.0 / 0.0)

/-- The great circle between two points on a sphere of a radius. On a sphere whose radius is not
finite nothing is known of it. -/
def inverse (radius lat1 lon1 lat2 lon2 : Float) : Inverse :=
  let b := between lat1 lon1 lat2 lon2
  if radius.isFinite then ⟨b.leaving, b.back, b.arc * radius⟩
  else ⟨0.0 / 0.0, 0.0 / 0.0, 0.0 / 0.0⟩

/-- A number as the radius of a sphere. The square of a double has to be one too, and not zero;
whole numbers only have to fit into a double. -/
def radiusOfNumber (n : Number) : Except Error Float :=
  match n with
  | .real x =>
    if !x.isFinite then .ok x
    else if !(x * x).isFinite then .error .outOfRange
    else if x * x == 0.0 then .error .zeroDivisor
    else .ok x
  | n => n.toFloat

end Sphere

/-- The great circles of spheres, reckoned with doubles. -/
def SphereLibrary.known : SphereLibrary where
  greatCircles n := do
    let radius ← Sphere.radiusOfNumber n
    return ⟨Sphere.forward radius, Sphere.inverse radius⟩

/-- The known units, and great circles reckoned with doubles. -/
def Instruments.known : Instruments := ⟨.known, .known⟩

end MetesBounds
