import MetesBounds.Bearing
import MetesBounds.Measure
import MetesBounds.Registry

/-!
# `Registry/Standard` — the procedures that every evaluation offers

Four calculate: bearings as degrees, opposite bearings, bearings turned by an angle, and feet in
metres. Two work on the traverse: one empties the result and keeps the position, the other forgets
everything.
-/

set_option autoImplicit false

namespace MetesBounds.Registry

/-- The name of the procedure that empties the result. -/
def clearName : String := "clearDestinationPoints"

/-- The name of the procedure that forgets everything. -/
def resetName : String := "resetState"

/-- A bearing in degrees. -/
def bearingToDegrees : Procedure :=
  .ofValues ["bearing"] fun args => do
    return .ofFloat (← bearingOfValue .double (args.headD .nothing))

/-- The opposite of a bearing. -/
def oppositeBearing : Procedure :=
  .ofValues ["bearing"] fun args => do
    return .ofFloat (← oppositeOfValue .double (args.headD .nothing))

/-- An azimuth turned by a number of degrees. -/
def turned (bearing degrees : Value) : Except Error Float := do
  let x ← bearing.toFloat
  return Reckoning.double.wrap (x + (← degrees.toFloat))

/-- An azimuth turned by a number of degrees, both as given. -/
def adjustDegrees : Procedure :=
  .ofValues ["bearing", "degrees"] fun args => do
    return .ofFloat (← turned (args.headD .nothing) (args.getD 1 .nothing))

/-- Feet in metres. -/
def feetToMeters (units : UnitLibrary) : Procedure :=
  .ofValues ["feet"] fun args => do
    return .ofFloat (← units.metresOfValue (.text "foot") (args.headD .nothing))

/-- Empties the result. -/
def clearDestinationPoints : Procedure := .onTraverse "clear_points" Traverse.clearPoints

/-- Forgets everything. -/
def resetState : Procedure := .onTraverse "reset" Traverse.reset

/-- The standard procedures by name. -/
def standard (units : UnitLibrary) : Registry where
  entries := ⟨[
    ("bearingToDegrees", ⟨bearingToDegrees, false⟩),
    ("oppositeBearing", ⟨oppositeBearing, false⟩),
    ("adjustDegrees", ⟨adjustDegrees, false⟩),
    ("feetToMeters", ⟨feetToMeters units, false⟩),
    (clearName, ⟨clearDestinationPoints, true⟩),
    (resetName, ⟨resetState, true⟩)
  ]⟩

end MetesBounds.Registry
