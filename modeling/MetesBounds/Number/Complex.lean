import MetesBounds.Number.Arithmetic

/-!
# `Number/Complex` — numbers that need not be real

A power of a negative number need not be real. A complex number is a pair of doubles, and is
reckoned with part by part: a quotient is taken after both parts of the divisor are divided by the
larger of them, a power with a small whole exponent is multiplied out, and any other goes by length
and angle.
-/

set_option autoImplicit false

namespace MetesBounds

/-- A number with a real and an imaginary part. -/
structure Complex where
  re : Float
  im : Float

namespace Complex

/-- A double as a complex number. -/
def ofFloat (x : Float) : Complex := ⟨x, 0.0⟩

/-- Whether both parts are the same. -/
def same (a b : Complex) : Bool := a.re == b.re && a.im == b.im

/-- Whether a number is zero. -/
def isZero (a : Complex) : Bool := a.same (ofFloat 0.0)

/-- Whether a part is no number. -/
def isNaN (a : Complex) : Bool := a.re.isNaN || a.im.isNaN

/-- The sum of two numbers. -/
def sum (a b : Complex) : Complex := ⟨a.re + b.re, a.im + b.im⟩

/-- The difference of two numbers. -/
def difference (a b : Complex) : Complex := ⟨a.re - b.re, a.im - b.im⟩

/-- The product of two numbers. -/
def product (a b : Complex) : Complex :=
  ⟨a.re * b.re - a.im * b.im, a.re * b.im + a.im * b.re⟩

/-- The quotient of two numbers; `none` where the divisor is zero. -/
def quotient? (a b : Complex) : Option Complex :=
  if b.re.abs ≥ b.im.abs then
    if b.re == 0.0 then none
    else
      let ratio := b.im / b.re
      let under := b.re + b.im * ratio
      some ⟨(a.re + a.im * ratio) / under, (a.im - a.re * ratio) / under⟩
  else if b.im.abs ≥ b.re.abs then
    let ratio := b.re / b.im
    let under := b.re * ratio + b.im
    some ⟨(a.re * ratio + a.im) / under, (a.im * ratio - a.re) / under⟩
  else some ⟨0.0 / 0.0, 0.0 / 0.0⟩

/-- A number that is multiplied by the power of another with a whole exponent. The exponent has
fewer than `steps` binary digits. -/
def multiplied (steps : Nat) (done base : Complex) (n : Nat) : Complex :=
  match steps with
  | 0 => done
  | steps + 1 =>
    if n = 0 then done
    else
      multiplied steps (if n % 2 = 1 then done.product base else done) (base.product base) (n / 2)

/-- The largest whole exponent that is multiplied out. -/
def largestMultiplied : Nat := 100

/-- A power with a whole exponent; `none` where zero would be divided by. -/
def wholePower? (a : Complex) (n : Int) : Option Complex :=
  let p := multiplied 7 (ofFloat 1.0) a n.natAbs
  if 0 < n then some p else quotient? (ofFloat 1.0) p

/-- The length of a number. -/
def size (a : Complex) : Float :=
  let long := if a.re.abs < a.im.abs then a.im.abs else a.re.abs
  let short := if a.re.abs < a.im.abs then a.re.abs else a.im.abs
  if short == 0.0 || long.isInf then long
  else long * Float.sqrt (1.0 + short / long * (short / long))

/-- A power by length and angle, of a number and with an exponent that are not zero; `none` where
the angle is infinite, which has no direction. -/
def turned? (a b : Complex) : Option Complex :=
  let length := Float.pow a.size b.re
  let angle := Float.atan2 a.im a.re
  let (length, turn) :=
    if b.im == 0.0 then (length, angle * b.re)
    else (length / Float.exp (angle * b.im), angle * b.re + b.im * Float.log a.size)
  if turn.isInf then none else some ⟨length * Float.cos turn, length * Float.sin turn⟩

/-- A power; `none` where zero would be divided by or the direction is lost. -/
def power? (a b : Complex) : Option Complex :=
  if b.im == 0.0 && b.re.floor == b.re && b.re.abs ≤ Float.ofNat largestMultiplied then
    wholePower? a ((Decimal.nearestInt? b.re).getD 0)
  else if a.isZero then if b.im != 0.0 || b.re < 0.0 then none else some (ofFloat 0.0)
  else turned? a b

/-- A power that is finite. -/
def power (a b : Complex) : Except Error Complex :=
  match power? a b with
  | none => .error (.zero .imaginaryPower)
  | some p => if p.re.isInf || p.im.isInf then .error .powerTooLarge else .ok p

end Complex

end MetesBounds
