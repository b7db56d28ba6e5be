import MetesBounds.Curve.OnSphere
import MetesBounds.Proofs.Calculation.Rounding
import MetesBounds.Proofs.Instruments

/-!
# `Calculation/Directions` — what angles, great circles and curves fail with

Reading a bearing and following a great circle fail over what they are given. What is calculated on
a sphere whose radius and unit are still to be looked at fails over these too; `Error.Arises` says
so once for lines and curves. A division by zero does not come up: the radius of an arc is looked at
before the arc is divided by its circumference, and behind that look the circumference is not zero
(`around_ne_zero`).

What a curve does need of the traverse, two points before it, is looked at before the calculation
begins; so `Curve.resolve` is not among the calculations, and its parts are.

Main statements: `reckons_bearingOfValue`, `Curve.arises_endOnSphere`.
-/

set_option autoImplicit false

namespace MetesBounds

open Error (OfReckoning)

/-! ## Angles and bearings -/

theorem Dms.reckons_countOf (ds : List Char) : FailsIn OfReckoning (countOf ds) :=
  .ite (.ok _) (.error trivial)

/-- The degrees of an angle are the one whole number that may be too large. -/
theorem Dms.reckons_value (a : Dms) : FailsIn OfReckoning (a.value .double) :=
  (reckons_countOf _).bind fun _ => (reckons_countOf _).bind fun _ =>
    (reckons_countOf _).bind fun _ => (reckons_doubleOfInt _).map

theorem reckons_angleOfValue (v : Value) : FailsIn OfReckoning (angleOfValue .double v) := by
  refine (v.failsIn_plainText trivial).bind fun s => ?_
  split
  · exact Dms.reckons_value _
  · exact .error trivial

theorem reckons_bearingOfText (s : String) : FailsIn OfReckoning (bearingOfText .double s) := by
  refine .ite (Value.reckons_toFloat (.text s)).map ?_
  split
  · next b _ => exact b.angle.reckons_value.map
  · exact .error trivial

theorem reckons_bearingOfValue (v : Value) : FailsIn OfReckoning (bearingOfValue .double v) := by
  unfold bearingOfValue
  split
  · exact .error trivial
  · exact (Number.reckons_toFloat _).map
  · exact (Value.failsIn_plainText trivial _).bind reckons_bearingOfText

theorem reckons_oppositeOfValue (v : Value) : FailsIn OfReckoning (oppositeOfValue .double v) :=
  (reckons_bearingOfValue v).map

theorem reckons_directionOfValue (v : Value) : FailsIn OfReckoning (directionOfValue v) :=
  (v.failsIn_plainText trivial).bind fun _ => .ite (.ok _) (.ite (.ok _) (.error trivial))

theorem Call.reckons_labelWith (k : Kind) (memo : Value) :
    FailsIn OfReckoning (labelWith k memo) := by
  cases memo with
  | text s => exact .ok _
  | _ => exact .error trivial

/-! ## Great circles -/

namespace GreatCircles

variable (g : GreatCircles)

theorem reckons_destination (origin : Point) (distance bearing : Float) :
    FailsIn OfReckoning (g.destination origin distance bearing) :=
  (Number.reckons_toFloat _).bind fun _ => origin.reckons_reckonedLongitude.bind fun _ =>
    Point.reckons_checked _ _

theorem reckons_between (start finish : Point) : FailsIn OfReckoning (g.between start finish) :=
  start.reckons_checkRows.bind fun _ => finish.reckons_checkRows.bind fun _ =>
    (Number.reckons_toFloat _).bind fun _ => start.reckons_reckonedLongitude.bind fun _ =>
      (Number.reckons_toFloat _).bind fun _ => finish.reckons_reckonedLongitude.map

end GreatCircles

/-! ## On a sphere of some radius, in some unit -/

/-- What comes up in a calculation on a sphere: an error of reckoning, the radius of a curve that is
not positive, or what the radius of the sphere or the unit is refused with. -/
inductive Error.Arises (i : Instruments) (radius unit : Value) : Error → Prop
  | reckoning {err : Error} (h : err.OfReckoning) : Arises i radius unit err
  | curve (shown : String) : Arises i radius unit (.curveRadius shown)
  | sphere {err : Error} (h : i.spheres.ofRadius radius = .error err) : Arises i radius unit err
  | unit {err : Error} {x : Float} (h : i.units.metres x unit = .error err) :
    Arises i radius unit err

open Error (Arises)

section Arising

variable {i : Instruments} {radius unit : Value}

theorem FailsIn.arises {α : Type} {x : Except Error α} (h : FailsIn OfReckoning x) :
    FailsIn (Arises i radius unit) x := h.mono fun _ => .reckoning

theorem arises_metresOfValue (v : Value) :
    FailsIn (Arises i radius unit) (i.units.metresOfValue unit v) :=
  v.reckons_toFloat.arises.bind fun _ _ => .unit

namespace SphereLibrary

theorem arises_ofRadius : FailsIn (Arises i radius unit) (i.spheres.ofRadius radius) :=
  fun _ => .sphere

theorem arises_destination (origin : Point) (distance : Float) (bearing : Value) :
    FailsIn (Arises i radius unit) (i.spheres.destination radius origin distance bearing) :=
  arises_ofRadius.bind fun g => bearing.reckons_wrapped.arises.bind fun _ =>
    (g.reckons_destination _ _ _).arises

theorem arises_inverse (start finish : Point) :
    FailsIn (Arises i radius unit) (i.spheres.inverse radius start finish) :=
  arises_ofRadius.bind fun g => (g.reckons_between _ _).arises

end SphereLibrary

namespace Curve

theorem arises_arcDelta (distance radius' : Value) :
    FailsIn (Arises i radius unit) (arcDelta .double distance radius') := by
  refine radius'.reckons_toFloat.arises.bind fun r => ?_
  by_cases hr : r ≤ Float.ofNat 0
  · have hle : Reckoning.double.atMost r (Reckoning.double.small 0) = true := decide_eq_true hr
    rw [if_pos hle]
    exact .error (.curve _)
  · have hle : Reckoning.double.atMost r (Reckoning.double.small 0) = false := decide_eq_false hr
    rw [if_neg (by rw [hle]; decide)]
    refine distance.reckons_toFloat.arises.bind fun length => ?_
    -- behind that look the circumference is not zero, so the division cannot fail
    have hd : centralAngle length r = .ok (length * 360.0 / (r * 2.0 * circleRatio)) :=
      if_neg (by rw [around_ne_zero hr]; decide)
    exact .of_eq_ok hd

theorem arises_deltaOf (c : CurveCall) : FailsIn (Arises i radius unit) (deltaOf .double c) := by
  refine .ite (arises_arcDelta _ _) (FailsIn.arises ?_)
  split
  · exact reckons_angleOfValue _
  · exact Number.reckons_toFloat _
  · exact reckons_angleOfValue _

theorem reckons_opposite (v : Value) : FailsIn OfReckoning v.opposite := by
  cases v with
  | number n => exact .ok _
  | _ => exact .error trivial

theorem reckons_turnOf (c : CurveCall) (clockwise : Bool) (usual : Value) :
    FailsIn OfReckoning (turnOf .double c clockwise usual) :=
  .ite (.ite (.ok _) (reckons_opposite usual).map) c.turn.reckons_toFloat.map

theorem reckons_addTurn (x : Float) (turn : Turn Float) :
    FailsIn OfReckoning (addTurn .double x turn) := by
  unfold addTurn
  split
  · exact .ok _
  · exact (Number.reckons_toFloat _).map
  · exact .error trivial

theorem arises_arriving (start finish : Point) :
    FailsIn (Arises i radius unit) (arriving .double (i.spheres.globe radius) start finish) :=
  (SphereLibrary.arises_inverse finish start).map.map

theorem arises_layOut (previous start : Point) (clockwise : Bool) (delta : Float)
    (turn : Turn Float) (length : Float) :
    FailsIn (Arises i radius unit)
      (layOut .double (i.spheres.globe radius) previous start clockwise delta turn length) :=
  (arises_arriving _ _).bind fun _ => (reckons_addTurn _ _).arises.bind fun _ =>
    (SphereLibrary.arises_destination _ _ _).bind fun _ => (arises_arriving _ _).bind fun _ =>
      (SphereLibrary.arises_destination _ _ _).map

/-- Where both points before it are known, a curve is only calculated. -/
theorem arises_endOnSphere (usual : Value) (previous start : Point) (c : CurveCall) :
    FailsIn (Arises i radius unit)
      (endOnSphere i radius unit usual (some previous) (some start) c) := by
  refine FailsIn.bind ?_ fun _ => (Call.reckons_labelWith _ _).arises.map
  exact (reckons_directionOfValue _).arises.bind fun _ => (arises_deltaOf _).bind fun _ =>
    (reckons_turnOf _ _ _).arises.bind fun _ => (arises_metresOfValue _).bind fun _ =>
      arises_layOut _ _ _ _ _ _

end Curve

end Arising

end MetesBounds
