import MetesBounds.Number.Double
import MetesBounds.Decimal.Reader

/-!
# `Reckoning` — the arithmetic that angles are worked out in

How a bearing is worked out from its degrees, minutes and seconds, and a curve from its delta, does
not depend on how numbers are represented. Both are therefore written over a `Reckoning`: the
operations they use and nothing else. `Reckoning.double` is the arithmetic of doubles; the same
definitions over rational numbers say what an exact calculation would give.
-/

set_option autoImplicit false

namespace MetesBounds

/-- The operations on numbers of type `α` that angles are worked out with. -/
structure Reckoning (α : Type) where
  /-- A whole number, which may be too large. -/
  count : Nat → Except Error α
  /-- A small whole number. -/
  small : Nat → α
  /-- A number as it was given. -/
  given : Number → Except Error α
  /-- A numeral, `none` for a text that is none. -/
  numeral : String → Option α
  add : α → α → α
  sub : α → α → α
  div : α → α → α
  opposite : α → α
  /-- What is left after whole turns are taken away, with the sign of the number. -/
  withinTurn : α → α
  less : α → α → Bool
  atMost : α → α → Bool
  /-- The central angle, in degrees, of an arc of a length on a radius. -/
  centralAngle : α → α → Except Error α
  /-- The number as messages show it. -/
  shown : α → String

namespace Reckoning

variable {α : Type} (k : Reckoning α)

/-- A value as a number: numbers as they are, and texts that are numerals. -/
def read : Value → Except Error α
  | .number n => k.given n
  | .text s =>
    match k.numeral s with
    | some x => .ok x
    | none => .error (.notANumeral (Text.quoted s))
  | v => .error (.notReal v.kindName)

/-- An angle within one turn, from zero up to but not including 360 degrees. What is left after
whole turns may be negative; adding a turn may then round up to a whole turn, which is zero. -/
def wrap (x : α) : α :=
  let r := k.withinTurn x
  let r := if k.less r (k.small 0) then k.add r (k.small 360) else r
  if k.atMost (k.small 360) r then k.small 0 else r

end Reckoning

/-! ## Doubles -/

/-- The ratio of a circle's circumference to its diameter, to the nearest double. -/
def circleRatio : Float := 3.141592653589793

/-- The central angle of an arc, in degrees. -/
def centralAngle (length radius : Float) : Except Error Float :=
  let around := radius * 2.0 * circleRatio
  if around == 0.0 then .error .zeroDivisor else .ok (length * 360.0 / around)

/-- An arc length as a number, times the degrees of a turn. -/
def Value.timesTurn : Value → Except Error Float
  | number n => do return (← n.toFloat) * 360.0
  | text _ | row _ => .error .noRepetition
  | v => .error (.noOperation "*" v.kindName "float")

/-- The circumference of a circle whose radius is a number as given. A whole radius is doubled
exactly. -/
def Value.around : Value → Except Error Float
  | number (.real x) => .ok (x * 2.0 * circleRatio)
  | number (.whole n) => do return (← doubleOfInt (n * 2)) * circleRatio
  | number (.truth b) => .ok ((if b then 2.0 else 0.0) * circleRatio)
  | text _ | row _ => .error .noRepetition
  | v => .error (.noOperation "*" v.kindName "int")

/-- The central angle of an arc, in degrees, from a length and a radius as given. -/
def centralAngleOfValues (length radius : Value) : Except Error Float := do
  let turns ← length.timesTurn
  let around ← radius.around
  if around == 0.0 then .error .zeroDivisor else return turns / around

/-- The remainder of a double after whole turns. A remainder of zero has no sign. -/
def turnRemainder (x : Float) : Float :=
  let r := Binary64.remainder x 360
  if r == 0.0 then 0.0 else r

/-- The arithmetic of doubles. -/
def Reckoning.double : Reckoning Float where
  count n := doubleOfInt n
  small n := Float.ofNat n
  given n := n.toFloat
  numeral := Decimal.read?
  add x y := x + y
  sub x y := x - y
  div x y := x / y
  opposite x := -x
  withinTurn := turnRemainder
  less x y := x < y
  atMost x y := x ≤ y
  centralAngle := MetesBounds.centralAngle
  shown x := (Number.real x).text

/-- A value as a double. -/
def Value.toFloat (v : Value) : Except Error Float := Reckoning.double.read v

/-- A value as an angle within one turn. -/
def Value.wrapped (v : Value) : Except Error Float := do
  return Reckoning.double.wrap (← v.toFloat)

end MetesBounds
