import MetesBounds.Measure.NamedUnit
import MetesBounds.Measure.Product

/-!
# `Measure/Dimension` — of what dimension a unit is, and dimensions as text

A dimension is a product of powers of base dimensions. Some products have names of their own; they
and the units are followed through their definitions down to the bases, in the order in which the
names are written there. An expression may name dimensions and units alike; a unit stands for its
dimension. Plain numbers do not count, except that they must not scale anything.
-/

set_option autoImplicit false

namespace MetesBounds

namespace Dimension

/-- The base dimensions. The last is that of units that only count. -/
def bases : List String := [
  "[length]", "[time]", "[current]", "[luminosity]", "[mass]", "[substance]", "[temperature]",
  "[printing_unit]", "[]"
]

/-- The dimension of units that only count; it is left out of products. -/
def counting : String := "[]"

/-- The products that have names. -/
def named : List (String × List (String × Int)) := [
  ("[area]", [("[length]", 2)]),
  ("[volume]", [("[length]", 3)]),
  ("[frequency]", [("[time]", -1)]),
  ("[wavenumber]", [("[length]", -1)]),
  ("[velocity]", [("[length]", 1), ("[time]", -1)]),
  ("[speed]", [("[velocity]", 1)]),
  ("[volumetric_flow_rate]", [("[volume]", 1), ("[time]", -1)]),
  ("[acceleration]", [("[velocity]", 1), ("[time]", -1)]),
  ("[force]", [("[mass]", 1), ("[acceleration]", 1)]),
  ("[energy]", [("[force]", 1), ("[length]", 1)]),
  ("[power]", [("[energy]", 1), ("[time]", -1)]),
  ("[momentum]", [("[length]", 1), ("[mass]", 1), ("[time]", -1)]),
  ("[density]", [("[mass]", 1), ("[volume]", -1)]),
  ("[pressure]", [("[force]", 1), ("[area]", -1)]),
  ("[torque]", [("[force]", 1), ("[length]", 1)]),
  ("[viscosity]", [("[pressure]", 1), ("[time]", 1)]),
  ("[kinematic_viscosity]", [("[area]", 1), ("[time]", -1)]),
  ("[fluidity]", [("[viscosity]", -1)]),
  ("[concentration]", [("[substance]", 1), ("[volume]", -1)]),
  ("[activity]", [("[substance]", 1), ("[time]", -1)]),
  ("[entropy]", [("[energy]", 1), ("[temperature]", -1)]),
  ("[molar_entropy]", [("[entropy]", 1), ("[substance]", -1)]),
  ("[heat_transmission]", [("[energy]", 1), ("[area]", -1)]),
  ("[intensity]", [("[power]", 1), ("[area]", -1)]),
  ("[luminance]", [("[luminosity]", 1), ("[area]", -1)]),
  ("[luminous_flux]", [("[luminosity]", 1)]),
  ("[illuminance]", [("[luminous_flux]", 1), ("[area]", -1)]),
  ("[charge]", [("[current]", 1), ("[time]", 1)]),
  ("[electric_potential]", [("[energy]", 1), ("[charge]", -1)]),
  ("[electric_field]", [("[electric_potential]", 1), ("[length]", -1)]),
  ("[electric_displacement_field]", [("[charge]", 1), ("[area]", -1)]),
  ("[reduced_electric_displacement_field]", [("[electric_displacement_field]", 1)]),
  ("[resistance]", [("[electric_potential]", 1), ("[current]", -1)]),
  ("[resistivity]", [("[resistance]", 1), ("[length]", 1)]),
  ("[conductance]", [("[current]", 1), ("[electric_potential]", -1)]),
  ("[capacitance]", [("[charge]", 1), ("[electric_potential]", -1)]),
  ("[magnetic_flux]", [("[electric_potential]", 1), ("[time]", 1)]),
  ("[inductance]", [("[magnetic_flux]", 1), ("[current]", -1)]),
  ("[magnetic_field]", [("[magnetic_flux]", 1), ("[area]", -1)]),
  ("[magnetomotive_force]", [("[current]", 1)]),
  ("[magnetic_field_strength]", [("[current]", 1), ("[length]", -1)]),
  ("[electric_dipole]", [("[charge]", 1), ("[length]", 1)]),
  ("[electric_quadrupole]", [("[charge]", 1), ("[area]", 1)]),
  ("[magnetic_dipole]", [("[current]", 1), ("[area]", 1)])
]

/-- Whether a name is in brackets, as the names of dimensions are. -/
def isBracketed (name : String) : Bool :=
  Text.beginsWith "[" name && (Text.beforeEnd? "]" name).isSome

/-- What a name is defined as; a base dimension is nothing else. -/
def definition? (name : String) : Except Error (Option Powers) :=
  if isBracketed name then
    if bases.contains name then .ok none
    else
      match named.find? fun e => e.1 == name with
      | some e => .ok (some (NamedUnit.wholePowers e.2))
      | none => .error (.undefinedDimension name)
  else if name == "dimensionless" then .error (.noFactor "")
  else do
    match (← NamedUnit.find name).2 with
    | .base dimension => return some [(dimension, .whole 1)]
    | .multiple _ factors => return some factors

/-- A power of a product, followed down to the base dimensions and put onto others. -/
def follow (steps : Nat) (n : Number) (factors done : Powers) : Except Error Powers :=
  match steps with
  | 0 => .ok done
  | steps + 1 =>
    factors.foldlM (fun done f => do
      let n ← n.product f.2
      match ← definition? f.1 with
      | none => Powers.onto Number.sum done (f.1, n)
      | some factors => follow steps n factors done) done

/-- The dimension of a product of units and dimensions. -/
def ofPowers (p : Powers) : Except Error Powers := do
  return ((← follow NamedUnit.steps (.whole 1) p []).drop counting).withoutZeros

/-- The dimension that an expression names. -/
def ofText (expression : String) : Except Error Powers := do
  let p ← Product.ofText expression
  if p.factors.isEmpty then return []
  else if p.scale.isOne then ofPowers p.factors
  else throw .scaledDimension

/-- A labelled value as a power of its label. -/
def powerOfEntry (e : String × Value) : Except Error (String × Number) :=
  match e.2 with
  | .number n => .ok (e.1, n)
  | v => .error (.notAnExponent v.fullKindName)

/-- The dimension that a value states: a text names it, and labelled numbers are the exponents of
its names. Anything else is the dimension of pure numbers. -/
def ofValue : Value → Except Error Powers
  | .text expression => ofText expression
  | .labelled entries => do ofPowers (← entries.mapM powerOfEntry)
  | _ => .ok []

end Dimension

end MetesBounds
