import MetesBounds.Number.Complex

/-!
# `Measure/Scalar` — the plain numbers in an expression

Plain numbers are real numbers, which are reckoned with as `Number/Arithmetic` says, or complex
ones, which powers of negative numbers can be. Where one of two numbers is complex, both are
reckoned with as such; a complex number has neither a floor nor a remainder.
-/

set_option autoImplicit false

namespace MetesBounds

/-- A plain number. -/
inductive Scalar where
  | real (n : Number)
  | complex (z : Complex)

namespace Scalar

/-- The number one. -/
def one : Scalar := real (.whole 1)

/-- The name of a plain number's kind. -/
def kindName : Scalar → String
  | real n => (Value.number n).kindName
  | complex _ => "complex"

/-- Whether a plain number is one. -/
def isOne : Scalar → Bool
  | real n => n.same (.whole 1)
  | complex z => z.same (.ofFloat 1.0)

/-- Whether a plain number is zero. -/
def isZero : Scalar → Bool
  | real n => n.isZero
  | complex z => z.isZero

/-- A plain number as a complex one. -/
def toComplex : Scalar → Except Error Complex
  | real n => do return .ofFloat (← n.toFloat)
  | complex z => .ok z

/-- An operation on two plain numbers, given for real numbers and for complex ones. -/
def lift (onReal : Number → Number → Except Error Number)
    (onComplex : Complex → Complex → Except Error Complex) (a b : Scalar) : Except Error Scalar :=
  match a, b with
  | real m, real n => do return real (← onReal m n)
  | a, b => do return complex (← onComplex (← a.toComplex) (← b.toComplex))

/-- An operation on two plain numbers that only real ones have. -/
def liftReal (sign : String) (op : Number → Number → Except Error Number) (a b : Scalar) :
    Except Error Scalar :=
  match a, b with
  | real a, real b => do return real (← op a b)
  | _, _ => .error (.noOperation sign a.kindName b.kindName)

/-- The sum of two plain numbers. -/
def sum : Scalar → Scalar → Except Error Scalar := lift Number.sum fun a b => .ok (a.sum b)

/-- The difference of two plain numbers. -/
def difference : Scalar → Scalar → Except Error Scalar :=
  lift Number.difference fun a b => .ok (a.difference b)

/-- The product of two plain numbers. -/
def product : Scalar → Scalar → Except Error Scalar :=
  lift Number.product fun a b => .ok (a.product b)

/-- The quotient of two plain numbers. -/
def quotient : Scalar → Scalar → Except Error Scalar :=
  lift Number.quotient fun a b =>
    match a.quotient? b with
    | some q => .ok q
    | none => .error (.zero .imaginaryQuotient)

/-- The floor of the quotient of two plain numbers. -/
def floorQuotient : Scalar → Scalar → Except Error Scalar := liftReal "//" Number.floorQuotient

/-- The remainder of two plain numbers. -/
def remainder : Scalar → Scalar → Except Error Scalar := liftReal "%" Number.remainder

/-- A power of a plain number, which is complex where a power of a real number is not real. -/
def power (a b : Scalar) : Except Error Scalar := do
  match a, b with
  | real m, real n =>
    match ← m.power n with
    | some p => return real p
    | none => return complex (← (← a.toComplex).power (← b.toComplex))
  | a, b => return complex (← (← a.toComplex).power (← b.toComplex))

/-- The opposite of a plain number. -/
def opposite (a : Scalar) : Except Error Scalar := a.product (real (.whole (-1)))

end Scalar

end MetesBounds
