import MetesBounds.Instruments
import MetesBounds.Log

/-!
# `Settings` — what an evaluation is configured with

The sphere that everything lies on, the unit of distances and radii, the marker of references, the
turn to the center of a curve that states none, and the least level of what is logged. Settings
are made by `Settings.make`, which accepts only a positive radius and what a library of units takes
for a unit of length; the other three are taken as they are given and looked at where they are used.
-/

set_option autoImplicit false

namespace MetesBounds

/-- The configuration of an evaluation. -/
structure Settings where
  sphereRadius : Number
  distanceUnit : Value
  marker : Value
  defaultTurn : Value
  logLevel : Value

namespace Settings

/-- A radius of the sphere, which has to be positive. -/
def radiusOf : Value → Except Error Number
  | .number n =>
    if n.atMost 0 then .error ((Value.number n).blamedPlain .earthRadius) else .ok n
  | v => .error (.noOrder "<=" v.kindName "int")

/-- How a unit is refused: as unsupported where it is none, or none of length. -/
def refuseUnit (unit : Value) : Error → Error
  | e@(.undefinedUnit _) | e@(.wrongDimension ..) | e@(.badExpression _) =>
    unit.blamed fun shown => .unsupportedUnit shown e.message
  | e => e

/-- Checks that one of a unit can be measured in metres. -/
def checkUnit (units : UnitLibrary) (unit : Value) : Except Error Unit :=
  match units.metres 1.0 unit with
  | .error e => .error (refuseUnit unit e)
  | .ok _ => .ok ()

/-- Settings as they are given, if they are acceptable. -/
def make (units : UnitLibrary) (sphereRadius distanceUnit marker defaultTurn logLevel : Value) :
    Except Error Settings := do
  let radius ← radiusOf sphereRadius
  checkUnit units distanceUnit
  return ⟨radius, distanceUnit, marker, defaultTurn, logLevel⟩

/-- The settings that hold where nothing is given. -/
def usual : Settings where
  sphereRadius := .real Sphere.earthRadius
  distanceUnit := .text "foot"
  marker := .text "$"
  defaultTurn := .ofFloat 90.0
  logLevel := .ofInt Level.info.number

/-- The names of the settings, in order. -/
def names : List String :=
  ["earth_radius_m", "distance_unit", "reference_marker", "default_turn_for_center", "log_level"]

/-- Settings with their names. -/
def entries (s : Settings) : List (String × Value) :=
  names.zip [.number s.sphereRadius, s.distanceUnit, s.marker, s.defaultTurn, s.logLevel]

mutual

/-- A value with the parts of points and references laid open. -/
def opened : Value → Value
  | .point p =>
    .labelled [("latitude", .number p.latitude),
      ("longitude", Value.inRows (.number p.longitude) p.rows)]
  | .reference name => .labelled [("name", .text name)]
  | .row items => .row (openedItems items)
  | .labelled entries => .labelled (openedEntries entries)
  | v => v

/-- The items of a row with their parts laid open. -/
def openedItems : List Value → List Value
  | [] => []
  | v :: rest => opened v :: openedItems rest

/-- Labelled values with their parts laid open. -/
def openedEntries : List (String × Value) → List (String × Value)
  | [] => []
  | (name, v) :: rest => (name, opened v) :: openedEntries rest

end

/-- Settings as a value. -/
def toValue (s : Settings) : Value := opened (.labelled s.entries)

/-- Settings from named values; what is not named has its usual value. -/
def ofEntries (units : UnitLibrary) (given : List (String × Value)) : Except Error Settings :=
  match given.find? fun e => !names.contains e.1 with
  | some e => .error (.strayField "TraverseConfig" e.1)
  | none =>
    let get (name : String) : Value :=
      match given.find? (fun e => e.1 == name), usual.entries.find? (fun e => e.1 == name) with
      | some e, _ => e.2
      | none, some e => e.2
      | none, none => .nothing
    make units (get "earth_radius_m") (get "distance_unit") (get "reference_marker")
      (get "default_turn_for_center") (get "log_level")

/-- Whether something of a level is logged. -/
def reports (s : Settings) (level : Level) : Except Error Bool :=
  match s.logLevel with
  | .number n => .ok (n.atMost level.number)
  | v => .error (.noOrder ">=" "int" v.kindName)

end Settings

end MetesBounds
