import MetesBounds.Curve
import MetesBounds.Instruments
import MetesBounds.Log

/-!
# `Curve/OnSphere` — curves on a sphere of given radius

The construction of `Curve.resolve` with doubles for angles and the great circles of a sphere, and
the line that describes a curve in the log.
-/

set_option autoImplicit false

namespace MetesBounds

/-- The great circles of a sphere of a radius. -/
def SphereLibrary.globe (l : SphereLibrary) (radius : Value) : Globe Float Point where
  toward p q := do return (← l.inverse radius p q).forward
  leadTo p distance bearing := l.destination radius p distance (.ofFloat bearing)

namespace Curve

/-- The curve of a call on a sphere, given the unit of its lengths and the usual turn to the
center. -/
def onSphere (i : Instruments) (radius unit usual : Value) (previous start : Option Point)
    (c : CurveCall) : Except Error (Curve Float Point) :=
  resolve .double (i.spheres.globe radius) (i.units.metresOfValue unit) usual previous start c

/-- A turn as a number; a usual turn that is none counts as zero. -/
def Turn.toFloat : Turn Float → Float
  | .stated angle => angle
  | .usual (.number n) => n.toFloat?.getD 0.0
  | .usual _ => 0.0

/-- A coordinate as a double. -/
def coordinate (n : Number) : Float := n.toFloat?.getD 0.0

/-- What the log says of a curve. -/
def describe (label : String) (c : Curve Float Point) : Line where
  source := .curve
  level := .debug
  message :=
    "Curve " ++ label ++ ": tangent=" ++ Decimal.fixed 6 c.tangent ++ " delta=" ++
      Decimal.fixed 6 c.delta ++ " turn=" ++ Decimal.fixedSigned 1 (Turn.toFloat c.turn) ++
      " center=(" ++ Decimal.fixed 8 (coordinate c.center.latitude) ++ ", " ++
      Decimal.fixed 8 (coordinate c.center.longitude) ++ ")"

/-- Where the curve of a call ends, and what the log says of it. -/
def endOnSphere (i : Instruments) (radius unit usual : Value) (previous start : Option Point)
    (c : CurveCall) : Except Error (Point × Line) := do
  let curve ← onSphere i radius unit usual previous start c
  let label ← Call.labelWith .curve c.memo
  return (curve.finish, describe label curve)

end Curve

end MetesBounds
