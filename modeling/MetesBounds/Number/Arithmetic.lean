import MetesBounds.Number.Double

/-!
# `Number/Arithmetic` — reckoning with numbers as they were given

Whole numbers stay whole, and exact, as long as an operation keeps them so: sums, differences,
products, floors of quotients, remainders and powers with an exponent that is not negative. The
quotient of two whole numbers is a double. As soon as a double takes part, everything is a double.
-/

set_option autoImplicit false

namespace MetesBounds

namespace Binary64

/-- The double that `± m · 2^q` is, if it is one. -/
def toFloat (negative : Bool) (m : Nat) (q : Int) : Float :=
  let extra := m.log2 - 53
  let x := Float.scaleB (Float.ofNat (m >>> extra)) (q + extra)
  if negative then -x else x

/-- The remainder of a double after taking away whole multiples of another, with the sign of the
dividend. -/
def remainderBy (x y : Float) : Float :=
  match ofFloat x, ofFloat y with
  | .finite negative m q, .finite _ n r =>
    if n = 0 then 0.0 / 0.0
    else
      let low := min q r
      toFloat negative (m * Nat.pow 2 (q - low).toNat % (n * Nat.pow 2 (r - low).toNat)) low
  | .finite .., .infinite _ => x
  | _, _ => 0.0 / 0.0

/-- The double nearest to a quotient of whole numbers, infinite where there is none. Sixty-four
digits of the quotient are looked at, and whether anything is left. -/
def nearestQuotient (num den : Nat) : Float :=
  let up : Nat := 64 + den.log2 - num.log2
  let down : Nat := num.log2 - (64 + den.log2)
  let a := num <<< up
  let b := den <<< down
  let q := 2 * (a / b) + (if a % b = 0 then 0 else 1)
  Float.scaleB (Float.ofNat q) ((down : Int) - up - 1)

end Binary64

namespace Number

/-- The whole number that a number was given as; a truth value counts as zero or one. -/
def whole? : Number → Option Int
  | truth b => some (if b then 1 else 0)
  | whole n => some n
  | real _ => none

/-- An operation that is exact on whole numbers. -/
def combine (onWhole : Int → Int → Int) (onDoubles : Float → Float → Float) (a b : Number) :
    Except Error Number :=
  match a.whole?, b.whole? with
  | some m, some n => .ok (whole (onWhole m n))
  | _, _ => do return real (onDoubles (← a.toFloat) (← b.toFloat))

/-- The sum of two numbers. -/
def sum : Number → Number → Except Error Number := combine (· + ·) (· + ·)

/-- The difference of two numbers. -/
def difference : Number → Number → Except Error Number := combine (· - ·) (· - ·)

/-- The product of two numbers. -/
def product : Number → Number → Except Error Number := combine (· * ·) (· * ·)

/-- The quotient of two numbers, which is a double. -/
def quotient (a b : Number) : Except Error Number :=
  match a.whole?, b.whole? with
  | some m, some n =>
    if n = 0 then .error (.zero .wholeQuotient)
    else
      let x := Binary64.nearestQuotient m.natAbs n.natAbs
      if x.isFinite then .ok (real (if (m < 0) == (n < 0) then x else -x))
      else .error .quotientTooLarge
  | _, _ => do
    let x ← a.toFloat
    let y ← b.toFloat
    if y == 0.0 then .error .zeroDivisor else .ok (real (x / y))

/-- The floor of the quotient of two doubles, and the remainder that belongs to it, which has the
sign of the divisor. -/
def divided (x y : Float) : Float × Float :=
  let r := Binary64.remainderBy x y
  let q := (x - r) / y
  let (q, r) :=
    if r == 0.0 then (q, Binary64.withSign 0.0 y)
    else if (y < 0.0) == (r < 0.0) then (q, r)
    else (q - 1.0, r + y)
  let whole := q.floor
  if q == 0.0 then (Binary64.withSign 0.0 (x / y), r)
  else (if 0.5 < q - whole then whole + 1.0 else whole, r)

/-- The greatest whole number that is at most the quotient. -/
def floorQuotient (a b : Number) : Except Error Number :=
  match a.whole?, b.whole? with
  | some m, some n => if n = 0 then .error (.zero .wholeFloor) else .ok (whole (m.fdiv n))
  | _, _ => do
    let x ← a.toFloat
    let y ← b.toFloat
    if y == 0.0 then .error (.zero .doubleFloor) else .ok (real (divided x y).1)

/-- What is left after taking away the divisor as many times as `floorQuotient` says. -/
def remainder (a b : Number) : Except Error Number :=
  match a.whole?, b.whole? with
  | some m, some n => if n = 0 then .error (.zero .wholeRemainder) else .ok (whole (m.fmod n))
  | _, _ => do
    let x ← a.toFloat
    let y ← b.toFloat
    if y == 0.0 then .error (.zero .doubleRemainder) else .ok (real (divided x y).2)

/-- A power of doubles; `none` where it is not real. The first power of a double is that double. -/
def powerOfDoubles (x y : Float) : Except Error (Option Number) :=
  if x == 0.0 && y < 0.0 then .error (.zero .power)
  else if x < 0.0 && x.isFinite && y.isFinite && y.floor != y then .ok none
  else if y == 1.0 then .ok (some (real x))
  else
    let r := Float.pow x y
    if r.isInf && x.isFinite && y.isFinite then .error .outOfRange else .ok (some (real r))

/-- A power of a whole number. Powers of zero, one and minus one are told without multiplying. -/
def wholePower (m : Int) (n : Nat) : Int :=
  if m = 1 || n = 0 then 1
  else if m = 0 then 0
  else if m = -1 then (if n % 2 = 0 then 1 else -1)
  else Int.pow m n

theorem pow_minusOne (n : Nat) : Int.pow (-1) n = if n % 2 = 0 then 1 else -1 := by
  have one : Nat.pow 1 n = 1 := Nat.one_pow n
  show (if n % 2 = 0 then Int.ofNat (Nat.pow 1 n) else -Int.ofNat (Nat.pow 1 n)) = _
  rw [one]
  rfl

theorem wholePower_eq_pow (m : Int) (n : Nat) : wholePower m n = Int.pow m n := by
  unfold wholePower
  split
  · next h =>
    rcases (by simpa using h : m = 1 ∨ n = 0) with rfl | rfl
    · exact Int.one_pow.symm
    · exact (Int.pow_zero m).symm
  · next h =>
    have hn : n ≠ 0 := by simp at h; exact h.2
    split
    · next h0 => subst h0; exact (Int.zero_pow hn).symm
    · split
      · next h1 => subst h1; exact (pow_minusOne n).symm
      · rfl

/-- A power; `none` where it is not real. -/
def power (a b : Number) : Except Error (Option Number) :=
  match a.whole?, b.whole? with
  | some m, some (.ofNat n) => .ok (some (whole (wholePower m n)))
  | _, _ => do powerOfDoubles (← a.toFloat) (← b.toFloat)

end Number

end MetesBounds
