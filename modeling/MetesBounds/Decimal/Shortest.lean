import MetesBounds.Binary64

/-!
# `Decimal/Shortest` — the fewest digits that read back

A double `m · 2^q` owns an interval of the real line: the numbers that round to it. Of all
decimals in that interval the printer wants one with the fewest digits, and of those the nearest
to the double. If a decimal of `n` digits lies in the interval, so does one of the two that
enclose the double on the grid of `n` digits, so it is enough to try those two for `n` = 1, 2, …;
with seventeen digits one of them always fits.
-/

set_option autoImplicit false

namespace MetesBounds.Decimal

/-- A decimal `digits · 10^exponent`. -/
structure Digits where
  digits : Nat
  exponent : Int

/-- The power of ten of the leading digit of `m · 2^q`, for `m` positive and `q` no less than the
least exponent of a double. -/
def leadingExponent (m : Nat) (q : Int) : Int :=
  let scaled := m * Nat.pow 2 q.toNat * Nat.pow 10 330 / Nat.pow 2 (-q).toNat
  (Nat.toDigits 10 scaled).length - 331

/-- The decimal on the grid of `n` digits that reads back as `m · 2^q`, if there is one. -/
def onGrid? (m : Nat) (q lead : Int) (n : Nat) : Option Digits :=
  let k := (n : Int) - 1 - lead
  -- the double is `m · unit / den` steps of the grid
  let unit := Nat.pow 2 q.toNat * Nat.pow 10 k.toNat
  let den := Nat.pow 2 (-q).toNat * Nat.pow 10 (-k).toNat
  let below := if m = 0x10000000000000 ∧ -1074 < q then 1 else 2
  let inside (c : Nat) : Bool :=
    if m % 2 = 0 then (4 * m - below) * unit ≤ 4 * den * c && 4 * den * c ≤ (4 * m + 2) * unit
    else (4 * m - below) * unit < 4 * den * c && 4 * den * c < (4 * m + 2) * unit
  let lower := m * unit / den
  let nearest := Binary64.roundedQuotient (m * unit) den
  let other := if nearest = lower then lower + 1 else lower
  if inside nearest then some ⟨nearest, -k⟩
  else if inside other then some ⟨other, -k⟩
  else none

/-- The shortest decimal that reads back as `m · 2^q`, for `m` positive. -/
def shortest (m : Nat) (q : Int) : Digits :=
  let lead := leadingExponent m q
  ((List.range 17).findSome? fun n => onGrid? m q lead (n + 1)).getD ⟨m, q⟩

/-! ## Writing it down -/

/-- How a decimal is laid out: the leading exponents from `least` up to `limit` are written
without an exponent, all others with one of at least two digits. -/
structure Layout where
  least : Int
  limit : Int

/-- A decimal without an exponent; at least one digit stands on each side of the point. -/
def positional (ds : List Char) (lead : Int) : List Char :=
  if lead < 0 then '0' :: '.' :: List.replicate (-lead - 1).toNat '0' ++ ds
  else
    let whole := lead.toNat + 1
    let filled := ds ++ List.replicate (whole - ds.length) '0'
    let fraction := filled.drop whole
    filled.take whole ++ '.' :: (if fraction.isEmpty then ['0'] else fraction)

/-- A decimal with one digit before the point and an exponent. -/
def scientific (ds : List Char) (lead : Int) : List Char :=
  let fraction := ds.drop 1
  let power := Nat.toDigits 10 lead.natAbs
  ds.take 1 ++ (if fraction.isEmpty then [] else '.' :: fraction) ++
    'e' :: (if lead < 0 then '-' else '+') :: List.replicate (2 - power.length) '0' ++ power

/-- The digits of a positive number without the zeros at the end. -/
def significant (n : Nat) : List Char :=
  ((Nat.toDigits 10 n).reverse.dropWhile (· == '0')).reverse

/-- A decimal in a layout. -/
def Digits.write (layout : Layout) (d : Digits) : List Char :=
  if d.digits = 0 then ['0', '.', '0']
  else
    let lead := (Nat.toDigits 10 d.digits).length - 1 + d.exponent
    let ds := significant d.digits
    if layout.least ≤ lead && lead < layout.limit then positional ds lead else scientific ds lead

/-- A double written with the fewest digits that read back. -/
def shortestText (layout : Layout) (x : Float) : String :=
  match Binary64.ofFloat x with
  | .notANumber => "nan"
  | .infinite negative => if negative then "-inf" else "inf"
  | .finite negative m q =>
    let ds := if m = 0 then ['0', '.', '0'] else (shortest m q).write layout
    String.ofList (if negative then '-' :: ds else ds)

end MetesBounds.Decimal
