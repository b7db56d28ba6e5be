/-!
# `Binary64` — what a double stands for, exactly

Every finite double is a whole number times a power of two. All exact work on doubles (printing
them, comparing them with whole numbers, the remainder after whole turns) goes through this
decoding, so that nothing is rounded twice.
-/

set_option autoImplicit false

namespace MetesBounds

/-- The meaning of a double: `finite negative m q` is `± m · 2^q`. -/
inductive Binary64 where
  | notANumber
  | infinite (negative : Bool)
  | finite (negative : Bool) (mantissa : Nat) (exponent : Int)

namespace Binary64

/-- Whether a double has the sign of the negative ones, as the zero below zero has. -/
def isNegative (x : Float) : Bool := decide (0x8000000000000000 ≤ x.toBits.toNat)

/-- A double with the sign of another. -/
def withSign (x sign : Float) : Float :=
  if isNegative x == isNegative sign then x else -x

/-- The meaning of a double, read off its bits. -/
def ofFloat (x : Float) : Binary64 :=
  let bits := x.toBits.toNat
  let negative := isNegative x
  let field : Nat := bits / 0x10000000000000 % 2048
  let fraction := bits % 0x10000000000000
  if field = 2047 then (if fraction = 0 then .infinite negative else .notANumber)
  else if field = 0 then .finite negative fraction (-1074)
  else .finite negative (fraction + 0x10000000000000) ((field : Int) - 1075)

/-- `m · 2^q` as a numerator and a denominator. -/
def ratio (m : Nat) (q : Int) : Nat × Nat := (m * Nat.pow 2 q.toNat, Nat.pow 2 (-q).toNat)

/-- The quotient of two whole numbers, rounded to the nearest one; a half goes to the even
neighbour. -/
def roundedQuotient (num den : Nat) : Nat :=
  let q := num / den
  let twice := 2 * (num % den)
  if twice < den then q else if den < twice then q + 1 else if q % 2 = 0 then q else q + 1

/-- The double nearest to a whole number, `none` where it would overflow. -/
def ofInt? (n : Int) : Option Float :=
  let x := Float.ofInt n
  if x.isFinite then some x else none

/-- Whether two finite doubles, or a double and a whole number `± m · 2^0`, have the same value. -/
def sameValue : Binary64 → Binary64 → Bool
  | .finite s m q, .finite t n r =>
    let a := ratio m q
    let b := ratio n r
    a.1 * b.2 == b.1 * a.2 && (s == t || m == 0)
  | .infinite s, .infinite t => s == t
  | _, _ => false

/-- The remainder of a finite double after taking away whole multiples of `n`, with the sign of
the dividend. It is exact: a remainder of doubles is a double. -/
def remainder (x : Float) (n : Nat) : Float :=
  match ofFloat x with
  | .finite negative m q =>
    if x.abs < Float.ofNat n then x
    else
      let r :=
        if 0 ≤ q then Float.ofNat (m * Nat.pow 2 q.toNat % n)
        else Float.ofNat (m % (n * Nat.pow 2 (-q).toNat)) / Float.ofNat (Nat.pow 2 (-q).toNat)
      if negative then -r else r
  | _ => 0.0 / 0.0

end Binary64

end MetesBounds
