import MetesBounds.Measure.Known

/-!
# `Measure/Quantity` — a number and its unit in one text

A quantity such as `5 foot` or `3 meter / 2 second` is written as an expression in which names
stand for one of their unit. Unlike units, quantities of one dimension can be added; the second is
turned to the unit of the first. Only the unit of what comes out is of interest here, but the
numbers are reckoned too, since they can fail and since one of no dimension can be an exponent.
-/

set_option autoImplicit false

namespace MetesBounds

/-- A plain number, or a number of a unit. -/
inductive Quantity where
  | plain (n : Scalar)
  | sized (n : Scalar) (unit : Powers)

namespace Quantity

/-- The number of a quantity of no dimension, as a plain one. -/
def pure (n : Scalar) (unit : Powers) : Except Error Scalar := do
  if (← Dimension.ofPowers unit).isEmpty then n.product (.real (← Measure.size unit))
  else throw (.notDimensionless unit.text)

/-- A number of one unit as a number of another of the same dimension. -/
def turned (n : Scalar) (unit other : Powers) : Except Error Scalar := do
  if unit.same other then return n
  else
    let d ← Dimension.ofPowers unit
    let e ← Dimension.ofPowers other
    if d.same e then n.product (.real (← Measure.size (← unit.quotient other)))
    else throw (.wrongDimension unit.text d.text other.text e.text)

/-- The quantities multiplied. -/
def times : Quantity → Quantity → Except Error Quantity
  | plain m, plain n => do return plain (← m.product n)
  | plain m, sized n u => do return sized (← n.product m) u
  | sized m u, plain n => do return sized (← m.product n) u
  | sized m u, sized n v => do return sized (← m.product n) (← u.times v)

/-- One quantity divided by another. -/
def quotient : Quantity → Quantity → Except Error Quantity
  | plain m, plain n => do return plain (← m.quotient n)
  | plain m, sized n u => do return sized (← m.quotient n) (← u.raised (.whole (-1)))
  | sized m u, plain n => do return sized (← m.quotient n) u
  | sized m u, sized n v => do return sized (← m.quotient n) (← u.quotient v)

/-- A power of a number of a unit. -/
def raised (m : Scalar) (u : Powers) (n : Scalar) : Except Error Quantity := do
  if n.isOne then return sized m u
  else if n.isZero then return sized (← m.power (.real (.whole 0))) []
  else
    match n with
    | .real x =>
      let u ← u.raised x
      return sized (← m.power n) u
    | .complex _ => throw (.notReal n.kindName)

/-- A power of a quantity. -/
def power : Quantity → Quantity → Except Error Quantity
  | plain m, plain n => do return plain (← m.power n)
  | plain m, sized n v => do return plain (← m.power (← pure n v))
  | sized m u, plain n => raised m u n
  | sized m u, sized n v => do raised m u (← pure n v)

/-- Whether a plain number may be added to any quantity. -/
def isNeutral (n : Scalar) : Bool :=
  match n with
  | .real (.real x) => x == 0.0 || x.isNaN
  | .complex z => z.isZero || z.isNaN
  | n => n.isZero

/-- An operation that quantities of one dimension have. -/
def together (op : Scalar → Scalar → Except Error Scalar) :
    Quantity → Quantity → Except Error Quantity
  | plain m, plain n => do return plain (← op m n)
  | plain m, sized n v => do
    if isNeutral m then return sized (← op m n) v else return sized (← op m (← pure n v)) []
  | sized m u, plain n => do
    if isNeutral n then return sized (← op m n) u else return sized (← op (← pure m u) n) []
  | sized m u, sized n v => do
    let d ← Dimension.ofPowers u
    let e ← Dimension.ofPowers v
    if d.same e then return sized (← op m (← turned n v u)) u
    else throw (.wrongDimension u.text d.text v.text e.text)

/-- The floor of a quotient, which has no unit. -/
def floorQuotient : Quantity → Quantity → Except Error Quantity
  | plain m, plain n => do return plain (← m.floorQuotient n)
  | plain m, sized n v => do return sized (← m.floorQuotient (← pure n v)) []
  | sized m u, plain n => do return sized (← (← pure m u).floorQuotient n) []
  | sized m u, sized n v => do return sized (← m.floorQuotient (← turned n v u)) []

/-- The remainder of a quotient, in the unit of the dividend. -/
def remainder : Quantity → Quantity → Except Error Quantity
  | plain m, plain n => do return plain (← m.remainder n)
  | plain m, sized n v => do return sized (← m.remainder (← pure n v)) []
  | sized m u, plain n => do return sized (← m.remainder (← turned n [] u)) u
  | sized m u, sized n v => do return sized (← m.remainder (← turned n v u)) u

/-- What an operation comes to. -/
def operation : Option Sign → Quantity → Quantity → Except Error Quantity
  | none | some .times => times
  | some .slash => quotient
  | some .power => power
  | some .doubleSlash => floorQuotient
  | some .remainder => remainder
  | some .plus => together Scalar.sum
  | some .minus => together Scalar.difference

/-- What a name stands for: a number that is not finite, or one of its unit. -/
def ofName (name : String) : Except Error Quantity := do
  let small := String.ofList (name.toList.map Char.toLower)
  if name == "dimensionless" then return sized .one []
  else if small == "inf" || small == "infinity" then return plain (.real (.real (1.0 / 0.0)))
  else if small == "nan" then return plain (.real (.real (0.0 / 0.0)))
  else return sized .one [((← NamedUnit.find name).1, .whole 1)]

/-- The unit of a quantity. -/
def unit : Quantity → Measure
  | plain _ => .one
  | sized _ u => ⟨u⟩

/-- The quantity that a text states. -/
def ofText (s : String) : Except Error Quantity := do
  if s.isEmpty then throw .noQuantity
  else
    let e ← Expression.ofText (Spelling.plain (Spelling.sharesAsWords s))
    e.evaluate (plain ∘ .real) ofName operation

/-- The unit of what a field gives with another field for its unit. Only a text can state a unit of
its own. -/
def unitOfValue (unit v : Value) : Except Error Measure :=
  match unit, v with
  | .nothing, .text s => do return (← ofText s).unit
  | unit, v => do
    let u ← Measure.ofValue unit
    Measure.checkMagnitude v
    return u

end Quantity

end MetesBounds
