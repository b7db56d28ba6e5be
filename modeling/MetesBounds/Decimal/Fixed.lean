import MetesBounds.Binary64

/-!
# `Decimal/Fixed` — a fixed number of decimal places

The exact value of the double is rounded once, to the nearest multiple of the last place, a half
to the even neighbour.
-/

set_option autoImplicit false

namespace MetesBounds.Decimal

/-- A whole number of units of the last of `places` places, written with a point. -/
def placed (places units : Nat) : List Char :=
  let ds := Nat.toDigits 10 units
  let ds := List.replicate (places + 1 - ds.length) '0' ++ ds
  let whole := ds.length - places
  if places = 0 then ds else ds.take whole ++ '.' :: ds.drop whole

/-- A double with a fixed number of places. The sign of a negative zero, or of a negative number
that rounds to zero, is kept. -/
def fixed (places : Nat) (x : Float) : String :=
  match Binary64.ofFloat x with
  | .notANumber => "nan"
  | .infinite negative => if negative then "-inf" else "inf"
  | .finite negative m q =>
    let r := Binary64.ratio m q
    let ds := placed places (Binary64.roundedQuotient (r.1 * Nat.pow 10 places) r.2)
    String.ofList (if negative then '-' :: ds else ds)

/-- A double with a fixed number of places and a sign also where it is not negative. -/
def fixedSigned (places : Nat) (x : Float) : String :=
  let s := fixed places x
  if s.startsWith "-" then s else "+" ++ s

/-- The whole number nearest to a double, a half to the even neighbour. -/
def nearestInt? (x : Float) : Option Int :=
  match Binary64.ofFloat x with
  | .finite negative m q =>
    let r := Binary64.ratio m q
    let n : Int := Binary64.roundedQuotient r.1 r.2
    some (if negative then -n else n)
  | _ => none

end MetesBounds.Decimal
