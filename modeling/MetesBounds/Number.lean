import MetesBounds.Decimal.Shortest
import MetesBounds.Decimal.Fixed

/-!
# `Number` — a number as it was given

A field may be given a truth value, a whole number or a double, and the difference stays visible:
`45`, `45.0` and `True` are written differently and count as equal or not by value alone. Whole
numbers have no bound; but a double is only ever made of one where it fits, and one of very many
digits cannot be written. `text` says how a number is written where it can be.
-/

set_option autoImplicit false

namespace MetesBounds

/-- A number as it was given. A truth value counts as zero or one. -/
inductive Number where
  | truth (b : Bool)
  | whole (n : Int)
  | real (x : Float)

namespace Number

/-- Doubles are written without an exponent from a ten-thousandth up to sixteen digits. -/
def layout : Decimal.Layout := ⟨-4, 16⟩

/-- A number as it is written. -/
def text : Number → String
  | truth b => if b then "True" else "False"
  | whole n => toString n
  | real x => Decimal.shortestText layout x

/-- The most digits that a whole number is read from or written with. -/
def mostDigits : Nat := 4300

/-- Whether a number has too many digits to be written. A double never has. -/
def isOverlong : Number → Bool
  | whole n => decide (mostDigits < (Nat.toDigits 10 n.natAbs).length)
  | _ => false

/-- The number as a double, `none` where a whole number is too large for one. -/
def toFloat? : Number → Option Float
  | truth b => some (if b then 1.0 else 0.0)
  | whole n => Binary64.ofInt? n
  | real x => some x

/-- The number with the opposite sign; the opposite of a truth value is a whole number. -/
def opposite : Number → Number
  | truth b => whole (if b then -1 else 0)
  | whole n => whole (-n)
  | real x => real (-x)

/-- The exact value. -/
def value : Number → Binary64
  | truth b => .finite false (if b then 1 else 0) 0
  | whole n => .finite (n < 0) n.natAbs 0
  | real x => .ofFloat x

/-- Equality of values, however the numbers are written. -/
def same (a b : Number) : Bool := a.value.sameValue b.value

/-- The number written by its value alone: whole numbers without a point, however given. -/
def key (a : Number) : String :=
  match a with
  | truth b => if b then "1" else "0"
  | whole n => toString n
  | real x =>
    match Binary64.ofFloat x with
    | .finite negative m q =>
      let (num, den) := Binary64.ratio m q
      let n : Int := num / den
      if num % den = 0 then toString (if negative then -n else n) else text (real x)
    | _ => text (real x)

/-- Whether the number is at most a given whole number. -/
def atMost (a : Number) (bound : Int) : Bool :=
  match a with
  | truth b => (if b then 1 else 0) ≤ bound
  | whole n => n ≤ bound
  | real x => x ≤ Float.ofInt bound

/-- Whether the number is at least a given whole number. -/
def atLeast (a : Number) (bound : Int) : Bool :=
  match a with
  | truth b => bound ≤ (if b then 1 else 0)
  | whole n => bound ≤ n
  | real x => Float.ofInt bound ≤ x

/-- Whether the number is zero. -/
def isZero (a : Number) : Bool := a.atMost 0 && a.atLeast 0

end Number

end MetesBounds
