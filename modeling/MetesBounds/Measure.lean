import MetesBounds.Measure.Powers
import MetesBounds.Reckoning

/-!
# `Measure` — the units that distances are stated in

Old descriptions state distances in feet, chains, rods or varas; everything here works in metres.
Which expressions name a unit, of which dimension a unit is and how it converts is known to a
library of units, of which no more than a `UnitLibrary` is asked. What is decided here is that only a
unit of length can measure a distance.

Main definitions: `UnitLibrary.checkDimension`, `UnitLibrary.metres` (a number of a unit), and
`UnitLibrary.metresOfValue` (a distance from a field).
-/

set_option autoImplicit false

namespace MetesBounds

/-- A unit: a product of powers of named units. -/
structure Measure where
  factors : Powers

/-- A unit as messages show it, its names in alphabetical order. -/
def Measure.text (u : Measure) : String := u.factors.sorted.text

/-- The dimension of lengths. -/
def Dimension.length : Powers := [("[length]", .whole 1)]

/-- What is asked of a library of units. -/
structure UnitLibrary where
  /-- The unit of so many of what a value, usually an expression, names. -/
  unit : Float → Value → Except Error Measure
  /-- The dimension of a unit, as a product of powers of base dimensions. -/
  dimension : Measure → Except Error Powers
  /-- So many of a unit in metres. -/
  inMetres : Float → Measure → Except Error Float

namespace UnitLibrary

variable (l : UnitLibrary)

/-- Checks that a unit is of a dimension. -/
def checkDimension (u : Measure) (expected : Powers) : Except Error Unit := do
  let dimension ← l.dimension u
  if dimension.same expected then return ()
  else throw (.wrongDimension u.text dimension.text expected.text expected.text)

/-- A number of a unit in metres. -/
def metres (x : Float) (unit : Value) : Except Error Float := do
  let u ← l.unit x unit
  l.checkDimension u Dimension.length
  l.inMetres x u

/-- A distance from a field, in metres. The number is read before the unit is looked at. -/
def metresOfValue (unit v : Value) : Except Error Float := do l.metres (← v.toFloat) unit

end UnitLibrary

end MetesBounds
