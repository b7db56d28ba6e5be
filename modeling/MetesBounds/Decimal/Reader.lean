import MetesBounds.Text.Blank
import MetesBounds.Text.Digit

/-!
# `Decimal/Reader` — reading a numeral as a double

A numeral is an optional sign, digits of any script with an optional point among or beside them,
and an optional power of ten; or one of the words `inf`, `infinity` and `nan`. White space may
surround it, and single underscores may stand between digits. `Numeral` is what such a text says,
before any rounding.
-/

set_option autoImplicit false

namespace MetesBounds.Decimal

/-- What a numeral says: `decimal digits exponent` is `digits · 10^exponent`. -/
inductive Magnitude where
  | decimal (digits : Nat) (exponent : Int)
  | infinity
  | notANumber

/-- A numeral read from a text. -/
structure Numeral where
  negative : Bool
  magnitude : Magnitude

/-- An ASCII digit. -/
def isPlainDigit (c : Char) : Bool := '0' ≤ c && c ≤ '9'

/-- Digits of other scripts as plain digits. -/
def plainDigit (c : Char) : Char :=
  match Text.digitValue? c with
  | some n => Char.ofNat (48 + n)
  | none => c

/-- The characters without underscores, each of which must stand between two digits; `before` is
the character before. -/
def dropUnderscores (before : Char) : List Char → Option (List Char)
  | [] => some []
  | '_' :: next :: rest =>
    if isPlainDigit before && isPlainDigit next then
      (dropUnderscores next rest).map (next :: ·)
    else none
  | ['_'] => none
  | c :: rest => (dropUnderscores c rest).map (c :: ·)

/-- A sign at the front, and what follows it. -/
def splitSign : List Char → Bool × List Char
  | '-' :: rest => (true, rest)
  | '+' :: rest => (false, rest)
  | cs => (false, cs)

/-- The power of ten at the end of a numeral. -/
def readExponent? : List Char → Option Int
  | [] => some 0
  | e :: rest =>
    if e == 'e' || e == 'E' then
      let (negative, ds) := splitSign rest
      if ds.isEmpty || !ds.all isPlainDigit then none
      else
        let n : Int := Text.digitsValue ds
        some (if negative then -n else n)
    else none

/-- Digits with an optional point, and a power of ten. -/
def readDecimal? (cs : List Char) : Option Magnitude :=
  let whole := cs.takeWhile isPlainDigit
  let rest := cs.dropWhile isPlainDigit
  let (fraction, rest) :=
    match rest with
    | '.' :: r => (r.takeWhile isPlainDigit, r.dropWhile isPlainDigit)
    | r => ([], r)
  if whole.isEmpty && fraction.isEmpty then none
  else
    (readExponent? rest).map fun e =>
      .decimal (Text.digitsValue (whole ++ fraction)) (e - fraction.length)

/-- The part of a numeral after its sign. -/
def readMagnitude? (cs : List Char) : Option Magnitude :=
  let small := cs.map Char.toLower
  if small == "inf".toList || small == "infinity".toList then some .infinity
  else if small == "nan".toList then some .notANumber
  else readDecimal? cs

/-- What a text says as a numeral. -/
def readNumeral? (s : String) : Option Numeral :=
  let cs := (Text.trimBoth Text.isNumeralBlank s.toList).map plainDigit
  match dropUnderscores ' ' cs with
  | none => none
  | some cs =>
    let (negative, rest) := splitSign cs
    (readMagnitude? rest).map (⟨negative, ·⟩)

/-- The double nearest to `digits · 10^exponent`. Beyond four hundred places from the point every
decimal is zero or infinite as a double, so that no huge power is computed. -/
def nearest (digits : Nat) (exponent : Int) : Float :=
  if digits = 0 then 0.0
  else
    let lead := (Nat.toDigits 10 digits).length + exponent
    if 400 < lead then 1.0 / 0.0
    else if lead < -400 then 0.0
    else Float.ofScientific digits (exponent < 0) exponent.natAbs

/-- The double that a numeral stands for. -/
def Numeral.toFloat (n : Numeral) : Float :=
  let x :=
    match n.magnitude with
    | .decimal digits exponent => nearest digits exponent
    | .infinity => 1.0 / 0.0
    | .notANumber => 0.0 / 0.0
  if n.negative then -x else x

/-- A text read as a double. -/
def read? (s : String) : Option Float := (readNumeral? s).map Numeral.toFloat

end MetesBounds.Decimal
