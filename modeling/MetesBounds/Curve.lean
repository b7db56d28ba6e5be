import MetesBounds.Bearing
import MetesBounds.Call
import MetesBounds.Text.Letter

/-!
# `Curve` — where a circular curve ends

A curve goes on from the leg before it: the tangent at its start is the direction in which that
leg arrived. Turning from the tangent by the turn to the center, usually a right angle, and going
one radius leads to the center; the radius back to the start, swung around the center by the
curve's central angle, leads to the end. Direction TRUE bends to the right, FALSE to the left.

The construction is written over a `Reckoning` for its angles and a `Globe` for its great circles,
and uses nothing else about either.

Main definitions: `Curve.deltaOf` and `Curve.turnOf` (the angles that a call states or implies),
`Curve.layOut` (the construction), `Curve.resolve` (a call's curve).
-/

set_option autoImplicit false

namespace MetesBounds

/-- What is known of great circles: the bearing at one point toward another, and the point that
lies at a distance on a bearing. -/
structure Globe (α P : Type) where
  toward : P → P → Except Error α
  leadTo : P → α → α → Except Error P

/-- Whether a direction field says TRUE or FALSE, in any case. -/
def directionOfValue (v : Value) : Except Error Bool := do
  let s := Text.trim (← v.plainText)
  if Text.isWord "TRUE" s then return true
  else if Text.isWord "FALSE" s then return false
  else .error (.badDirection v.shown)

/-- The number with the opposite sign. -/
def Value.opposite : Value → Except Error Value
  | number n => .ok (.number n.opposite)
  | v => .error (.noOpposite v.kindName)

/-- The turn from the tangent to the center: an angle that the call states, or the usual one as it
was configured. -/
inductive Turn (α : Type) where
  | stated (angle : α)
  | usual (v : Value)

/-- A curve laid out on the ground. -/
structure Curve (α P : Type) where
  tangent : α
  delta : α
  turn : Turn α
  center : P
  finish : P

namespace Curve

variable {α P : Type} (k : Reckoning α) (g : Globe α P)

/-- The central angle of an arc of a length on a radius, which has to be positive. -/
def arcDelta (distance radius : Value) : Except Error α := do
  let r ← k.read radius
  if k.atMost r (k.small 0) then .error (.curveRadius (k.shown r))
  else k.centralAngle (← k.read distance) r

/-- Whether a field leaves its value open: it is absent, or its text is blank or one of `marks`. -/
def isOpen (marks : List String) : Value → Bool
  | .nothing => true
  | .text s => ("" :: marks).contains (Text.trim s)
  | _ => false

/-- The central angle of a curve: the stated one, or, where it is left open, the one that follows
from arc length and radius. -/
def deltaOf (c : CurveCall) : Except Error α :=
  if isOpen ["?"] c.delta then arcDelta k c.distance c.radius
  else
    match c.delta with
    | .number (.truth _) => angleOfValue k c.delta
    | .number n => k.given n
    | v => angleOfValue k v

/-- The turn to the center: the stated one, or, where it is left open, the usual one, to the side
that the curve bends to. -/
def turnOf (c : CurveCall) (clockwise : Bool) (usual : Value) : Except Error (Turn α) :=
  if isOpen [] c.turn then
    if clockwise then .ok (.usual usual) else do return .usual (← usual.opposite)
  else do return .stated (← k.read c.turn)

/-- An angle with a turn added. -/
def addTurn (x : α) : Turn α → Except Error α
  | .stated angle => .ok (k.add x angle)
  | .usual (.number n) => do return k.add x (← k.given n)
  | .usual v => .error (.noOperation "+" "float" v.kindName)

/-- The direction in which the great circle from one point arrives at another. -/
def arriving (start finish : P) : Except Error α := do
  return k.wrap (k.add (← g.toward finish start) (k.small 180))

/-- The construction of a curve from the two points before its end. -/
def layOut (previous start : P) (clockwise : Bool) (delta : α) (turn : Turn α) (radius : α) :
    Except Error (Curve α P) := do
  let tangent ← arriving k g previous start
  let toCenter ← addTurn k tangent turn
  let center ← g.leadTo start radius (k.wrap toCenter)
  let radial ← arriving k g start center
  let swing := k.sub (k.small 180) delta
  let radial := if clockwise then k.sub radial swing else k.add radial swing
  let finish ← g.leadTo center radius (k.wrap radial)
  return ⟨tangent, delta, turn, center, finish⟩

/-- The curve of a call, given the two points before it and how lengths are measured. -/
def resolve (metres : Value → Except Error α) (usual : Value) (previous start : Option P)
    (c : CurveCall) : Except Error (Curve α P) :=
  match previous, start with
  | some previous, some start => do
    let clockwise ← directionOfValue c.direction
    let delta ← deltaOf k c
    let turn ← turnOf k c clockwise usual
    let radius ← metres c.radius
    layOut k g previous start clockwise delta turn radius
  | _, _ => do
    let label ← Call.labelWith .curve c.memo
    .error (.noTangent label)

end Curve

end MetesBounds
