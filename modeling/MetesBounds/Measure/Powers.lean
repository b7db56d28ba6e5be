import MetesBounds.Decimal.Brief
import MetesBounds.Number.Arithmetic

/-!
# `Measure/Powers` — products of powers of names

The factors of a unit and its dimension are both written as products of powers: of units there, of
dimensions here. A product has one power of every name in it, in the order in which the names came
up; that order is kept in messages, but does not matter to whether two products are the same.
Exponents are numbers of any kind.
-/

set_option autoImplicit false

namespace MetesBounds

/-- A product of powers: names, each with its exponent. -/
abbrev Powers := List (String × Number)

namespace Powers

/-- The exponent of a name; a name that is not there has the exponent zero. -/
def exponent (p : Powers) (name : String) : Number :=
  match p.find? fun f => f.1 == name with
  | some f => f.2
  | none => .whole 0

/-- A product in which a name has an exponent: in its old place, or at the end. -/
def put (name : String) (n : Number) : Powers → Powers
  | [] => [(name, n)]
  | (other, m) :: rest =>
    if other == name then (name, n) :: rest else (other, m) :: put name n rest

/-- A product without a name. -/
def drop (p : Powers) (name : String) : Powers := p.filter fun f => f.1 != name

/-- A product without the names whose exponents are zero. -/
def withoutZeros (p : Powers) : Powers := p.filter fun f => !f.2.isZero

/-- An exponent put onto that of the same name by an operation. -/
def onto (op : Number → Number → Except Error Number) (p : Powers) (f : String × Number) :
    Except Error Powers := do
  return p.put f.1 (← op (p.exponent f.1) f.2)

/-- A product multiplied by another. -/
def times (p q : Powers) : Except Error Powers := do
  return (← q.foldlM (onto Number.sum) p).withoutZeros

/-- A product divided by another. -/
def quotient (p q : Powers) : Except Error Powers := do
  return (← q.foldlM (onto Number.difference) p).withoutZeros

/-- A power of a product. Names with an exponent of zero stay. -/
def raised (p : Powers) (n : Number) : Except Error Powers :=
  p.mapM fun f => do return (f.1, ← f.2.product n)

/-- Whether two products have the same powers, in whatever order. -/
def same (p q : Powers) : Bool :=
  p.length == q.length && p.all fun f => q.any fun g => f.1 == g.1 && f.2.same g.2

/-! ## Writing them down -/

/-- An exponent as messages write it. -/
def exponentText : Number → String
  | .real x => Decimal.brief x
  | n => n.text

/-- Whether an exponent is below zero. -/
def isBelow (n : Number) : Bool := n.atMost 0 && !n.isZero

/-- One power; an exponent of one is left out. -/
def writePower (name : String) (n : Number) : String :=
  if n.same (.whole 1) then name else name ++ " ** " ++ exponentText n

/-- A product of powers as messages write it. -/
def text (p : Powers) : String :=
  let above := (p.filter fun f => !isBelow f.2).map fun f => writePower f.1 f.2
  let below := (p.filter fun f => isBelow f.2).map fun f => writePower f.1 f.2.opposite
  if p.isEmpty then "dimensionless"
  else
    " / ".intercalate ((if above.isEmpty then "1" else " * ".intercalate above) :: below)

/-- A product with its names in alphabetical order. -/
def sorted (p : Powers) : Powers := p.mergeSort fun f g => decide (f.1 ≤ g.1)

end Powers

end MetesBounds
