import MetesBounds.Angle

/-!
# `Bearing` — the direction of a line

A bearing is an azimuth, in degrees clockwise from north, or an angle from north or south toward
east or west: `N45°30'15"E`. Without a letter in front, or with a minus sign there, it counts from
north, and without a letter behind toward east. Letters are read in either case, and the long s is
an s. Every azimuth is within one turn.

Main definitions: `Bearing.read` (from characters), `Bearing.azimuth` (the direction it gives),
`bearingOfValue` and `oppositeOfValue` (from a field), `Bearing.write` (to text).
-/

set_option autoImplicit false

namespace MetesBounds

/-- The pole that an angle is measured from. -/
inductive Pole where
  | north | south
  deriving DecidableEq

/-- The side that an angle opens to. -/
inductive Side where
  | east | west
  deriving DecidableEq

/-- A bearing as it is written. -/
structure Bearing where
  pole : Option Pole
  angle : Dms
  side : Option Side

namespace Bearing

/-- The pole that a character in front of a bearing names. -/
def poleOf? (c : Char) : Option Pole :=
  if c == '-' || c == 'N' || c == 'n' then some .north
  else if c == 'S' || c == 's' || c == 'ſ' then some .south
  else none

/-- The side that a character behind a bearing names. -/
def sideOf? (c : Char) : Option Side :=
  if c == 'E' || c == 'e' then some .east
  else if c == 'W' || c == 'w' then some .west
  else none

/-- An optional letter in front, and the characters after it. -/
def splitPole : List Char → Option Pole × List Char
  | [] => (none, [])
  | c :: rest =>
    match poleOf? c with
    | some p => (some p, rest)
    | none => (none, c :: rest)

/-- What may follow the angle of a bearing: an optional letter, spaces, and the end. -/
def readSide (cs : List Char) : Option (Option Side) :=
  match cs with
  | [] => some none
  | c :: rest =>
    match sideOf? c with
    | some s => if Dms.atEnd (Dms.dropSpaces rest) then some (some s) else none
    | none => if Dms.atEnd cs then some none else none

/-- A bearing that is the whole of a text. -/
def read (cs : List Char) : Option Bearing :=
  let front := splitPole (Dms.dropSpaces cs)
  (Dms.readThen readSide (Dms.dropSpaces front.2)).map fun r => ⟨front.1, r.1, r.2⟩

/-- The direction of a bearing: the angle itself toward east from north, and measured back from
the south or from a full turn otherwise. -/
def azimuth {α : Type} (k : Reckoning α) (b : Bearing) : Except Error α := do
  let a ← b.angle.value k
  return k.wrap <|
    match b.side, b.pole with
    | some .west, some .south => k.add a (k.small 180)
    | some .west, _ => k.sub (k.small 360) a
    | _, some .south => k.sub (k.small 180) a
    | _, _ => a

end Bearing

/-- Whether a text gives an azimuth as a plain decimal: white space, an optional sign, digits, an
optional point with further digits, white space. -/
def isAzimuth (cs : List Char) : Bool :=
  let unsigned :=
    match cs.dropWhile Text.isBlank with
    | '+' :: rest => rest
    | '-' :: rest => rest
    | rest => rest
  let afterWhole := unsigned.dropWhile Text.isDigit
  let rest :=
    match afterWhole with
    | '.' :: rest => rest.dropWhile Text.isDigit
    | rest => rest
  !(unsigned.takeWhile Text.isDigit).isEmpty && rest.all Text.isBlank

/-- The azimuth that a text gives: a plain decimal, else a bearing. -/
def bearingOfText {α : Type} (k : Reckoning α) (s : String) : Except Error α :=
  if isAzimuth s.toList then do
    return k.wrap (← k.read (.text s))
  else
    match Bearing.read s.toList with
    | some b => b.azimuth k
    | none => .error (.badBearing (Text.quoted s))

/-- The azimuth that a field gives: a number of degrees, or a text; of any other value the text
is read. A truth value is no bearing. -/
def bearingOfValue {α : Type} (k : Reckoning α) (v : Value) : Except Error α :=
  match v with
  | .number (.truth b) => .error (.badBearing (Number.truth b).text)
  | .number n => do return k.wrap (← k.given n)
  | v => do bearingOfText k (← v.plainText)

/-- The azimuth of the same line walked the other way. -/
def oppositeOfValue {α : Type} (k : Reckoning α) (v : Value) : Except Error α := do
  let a ← bearingOfValue k v
  return k.wrap (k.add a (k.small 180))

namespace Bearing

/-! ## Writing -/

/-- Seconds of arc in a full turn. -/
def turnSeconds : Nat := 1296000

/-- Seconds of arc as degrees, minutes and seconds. -/
def writeDms (t : Nat) : String :=
  toString (t / 3600) ++ "°" ++ toString (t % 3600 / 60) ++ "\x27" ++ toString (t % 60) ++ "\x22"

/-- An azimuth of `t` seconds of arc, as such or as an angle of at most 90 degrees from a pole. -/
def write (quadrant : Bool) (t : Nat) : String :=
  if !quadrant then writeDms t
  else if t ≤ 324000 then "N" ++ writeDms t ++ "E"
  else if t ≤ 648000 then "S" ++ writeDms (648000 - t) ++ "E"
  else if t < 972000 then "S" ++ writeDms (t - 648000) ++ "W"
  else "N" ++ writeDms (1296000 - t) ++ "W"

/-- The whole seconds of arc nearest to an azimuth within one turn; a full turn is none. -/
def secondsOf (azimuth : Float) : Except Error Nat :=
  match Decimal.nearestInt? (azimuth * 3600.0) with
  | some n => .ok (n.toNat % turnSeconds)
  | none => .error .notACount

/-- A field written as a bearing, to the nearest second. -/
def writeValue (quadrant : Bool) (v : Value) : Except Error String := do
  let azimuth ← v.wrapped
  return write quadrant (← secondsOf azimuth)

end Bearing

end MetesBounds
