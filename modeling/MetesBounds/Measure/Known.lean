import MetesBounds.Measure
import MetesBounds.Measure.Dimension
import MetesBounds.Point.Checked

/-!
# `Measure/Known` — a library of the units that have names

A unit is named, or written as a product of powers of named units, such as `foot**2` or
`meter/second`. Whether an expression names a unit, and of which dimension, depends on the
expression alone; so does what one of the unit is in metres.

Main definitions: `Measure.read` (from an expression), `Measure.size` (one unit in bases of the
system), and `UnitLibrary.known`.
-/

set_option autoImplicit false

namespace MetesBounds

namespace Measure

/-- The unit of pure numbers. -/
def one : Measure := ⟨[]⟩

/-- A unit multiplied by a power of a named one. A power of zero has to take a name away that is
there. -/
def times (u : Measure) (name : String) (n : Number) : Except Error Measure := do
  let n ← (u.factors.exponent name).sum n
  if !n.isZero then return ⟨u.factors.put name n⟩
  else if u.factors.any fun f => f.1 == name then return ⟨u.factors.drop name⟩
  else throw (.noFactor name)

/-- A unit multiplied by a power of one that is looked up by its name. -/
def timesNamed (u : Measure) (f : String × Number) : Except Error Measure := do
  if f.1 == "dimensionless" then return u
  else u.times (← NamedUnit.find f.1).1 f.2

/-- The unit that an expression names. A plain number in it would scale the unit and is refused. -/
def read (expression : String) : Except Error Measure := do
  let p ← Product.ofText (Text.trim (Spelling.sharesAsWords expression))
  if p.scale.isOne then p.factors.foldlM timesNamed one else throw .scaledUnit

/-- The unit that a field gives; nothing is the unit of pure numbers. -/
def ofValue : Value → Except Error Measure
  | .text expression => read expression
  | .nothing => .ok one
  | v => .error (.notAUnit v.fullKindName)

/-! ## Size -/

/-- A power of a product, with all units that its definition leads to, put onto others. A unit that
comes up again adds to its first exponent. -/
def follow (steps : Nat) (n : Number) (factors done : Powers) : Except Error Powers :=
  match steps with
  | 0 => .ok done
  | steps + 1 =>
    factors.foldlM (fun done f => do
      let n ← n.product f.2
      let (name, standard) ← NamedUnit.find f.1
      let done ← Powers.onto Number.sum done (name, n)
      match standard with
      | .base _ => return done
      | .multiple _ factors => follow steps n factors done) done

/-- A number multiplied by a power of what a unit is a multiple of. -/
def multiplied (size : Number) (f : String × Number) : Except Error Number := do
  match (← NamedUnit.find f.1).2 with
  | .base _ => return size
  | .multiple scale _ =>
    match ← scale.power f.2 with
    | some s => size.product s
    | none => return size

/-- What one of a product of units is in bases of the system. -/
def size (factors : Powers) : Except Error Number := do
  (← follow NamedUnit.steps (.whole 1) factors []).foldlM multiplied (.whole 1)

/-- The meter. -/
def meter : Powers := [("meter", .whole 1)]

/-- What one of a unit is in metres. -/
def inMetres (u : Measure) : Except Error Float := do
  (← size (← u.factors.quotient meter)).toFloat

/-- Checks that a value is one that units can be put to. -/
def checkMagnitude (v : Value) : Except Error Unit :=
  match v with
  | .nothing | .labelled _ | .number (.truth _) => .error (v.blamed .magnitude)
  | .text s => if s.isEmpty then .error .noMagnitude else .ok ()
  | .row _ => v.evenShape.map fun _ => ()
  | _ => .ok ()

end Measure

/-- The library of the known units. A number of a unit is converted by one multiplication. -/
def UnitLibrary.known : UnitLibrary where
  unit _ v := Measure.ofValue v
  dimension u := Dimension.ofPowers u.factors
  inMetres x u := do return x * (← u.inMetres)

end MetesBounds
