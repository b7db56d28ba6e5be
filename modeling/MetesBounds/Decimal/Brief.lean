import MetesBounds.Decimal.Shortest

/-!
# `Decimal/Brief` — a double to six significant digits

Exponents in messages are written briefly: the exact value of the double is rounded once, to six
digits, a half to the even neighbour, and zeros at the end are left out together with the point.
-/

set_option autoImplicit false

namespace MetesBounds.Decimal

/-- The number of digits. -/
def briefDigits : Nat := 6

/-- Decimals are written without an exponent from a ten-thousandth up to six digits. -/
def briefLayout : Layout := ⟨-4, briefDigits⟩

/-- The decimal of `n` digits nearest to `m · 2^q`, for `m` positive. -/
def rounded (n m : Nat) (q : Int) : Digits :=
  let k := (n : Int) - 1 - leadingExponent m q
  ⟨Binary64.roundedQuotient (m * Nat.pow 2 q.toNat * Nat.pow 10 k.toNat)
    (Nat.pow 2 (-q).toNat * Nat.pow 10 (-k).toNat), -k⟩

/-- A row of characters without a zero as its only decimal place. -/
def withoutPlace (cs : List Char) : List Char :=
  match cs.reverse with
  | '0' :: '.' :: rest => rest.reverse
  | _ => cs

/-- A double to six digits. -/
def brief (x : Float) : String :=
  match Binary64.ofFloat x with
  | .notANumber => "nan"
  | .infinite negative => if negative then "-inf" else "inf"
  | .finite negative m q =>
    let ds := if m = 0 then ['0'] else withoutPlace ((rounded briefDigits m q).write briefLayout)
    String.ofList (if negative then '-' :: ds else ds)

end MetesBounds.Decimal
