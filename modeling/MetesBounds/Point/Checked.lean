import MetesBounds.Number.Double

/-!
# `Point/Checked` — making a point of unchecked coordinates

A point has finite coordinates and a latitude no further from the equator than the poles. There is
no bound on the longitude. `Point.checked` refuses anything else; the first fault found is the one
reported. A coordinate may also be looked for in a row: then there has to be exactly one number in
it, whatever rows that stands in. A latitude in a row is refused where it is compared with the
poles.
-/

set_option autoImplicit false

namespace MetesBounds

/-- Whether a number may be a coordinate: a whole number has to fit into 64 bits. -/
def Number.fitsCoordinate : Number → Bool
  | .whole n => decide (-0x8000000000000000 ≤ n) && decide (n < 0x10000000000000000)
  | _ => true

/-- Whether a number is finite. -/
def Number.isFinite : Number → Bool
  | .real x => x.isFinite
  | _ => true

/-! ## Rows -/

namespace Value

/-- The most rows that may stand one inside the other. -/
def deepest : Nat := 64

mutual

/-- The numbers of items of a row and of the rows in it, one inside the other, as far as they are
the same for all rows side by side; and whether they are the same to the end. No more than `room`
rows are looked into; one that stands further inside counts as uneven. -/
def shape (room : Nat) : Value → List Nat × Bool
  | row items =>
    match room with
    | 0 => ([], false)
    | room + 1 =>
      match itemShape room items with
      | some (ns, even) => (items.length :: ns, even)
      | none => ([0], true)
  | _ => ([], true)

/-- The same for items side by side, of which there may be none. -/
def itemShape (room : Nat) : List Value → Option (List Nat × Bool)
  | [] => none
  | v :: rest =>
    match itemShape room rest with
    | none => some (shape room v)
    | some (ms, even) =>
      let (ns, evenHere) := shape room v
      let both := (ns.zip ms).takeWhile fun e => e.1 == e.2
      some (both.map Prod.fst, even && evenHere && ns == ms)

end

/-- The numbers of items of rows, one inside the other, that are all of one shape. -/
def evenShape (v : Value) : Except Error (List Nat) :=
  let (ns, even) := v.shape deepest
  if even then .ok ns
  else if ns.length = deepest then .error (.tooManyRows deepest)
  else .error (.unevenRow ns)

mutual

/-- What stands in a row and in the rows in it, `none` for anything but a number. -/
def leaves : Value → List (Option Number)
  | row items => leavesOf items
  | number n => [some n]
  | _ => [none]

/-- The same for several values. -/
def leavesOf : List Value → List (Option Number)
  | [] => []
  | v :: rest => leaves v ++ leavesOf rest

end

/-- The number that a value is or has in it, and the rows that it stands in. -/
def coordinate (v : Value) : Except Error (Number × Nat) := do
  let ns ← v.evenShape
  if !v.leaves.all (fun l => l.any Number.fitsCoordinate) then .error .notACoordinate
  else
    match v.leaves with
    | [some n] => .ok (n, ns.length)
    | [] => .error .emptyRow
    | _ => .error .severalItems

end Value

namespace Point

/-- The error over coordinates of which one is not finite. It gives both. -/
def notFinite (latitude longitude : Value) : Error :=
  if latitude.isOverlong then .overlong
  else longitude.blamedPlain (.notFinite latitude.plain)

/-- The point with the given coordinates, if there is one. -/
def checked (latitude longitude : Number) : Except Error Point :=
  if !latitude.fitsCoordinate then .error .notACoordinate
  else if !latitude.isFinite then .error (notFinite (.number latitude) (.number longitude))
  else if !longitude.fitsCoordinate then .error .notACoordinate
  else if !longitude.isFinite then .error (notFinite (.number latitude) (.number longitude))
  else if latitude.atLeast (-90) && latitude.atMost 90 then
    .ok { latitude := latitude, longitude := longitude }
  else .error (.beyondPole latitude.text)

/-- The point whose coordinates two values give. -/
def ofValues (latitude longitude : Value) : Except Error Point := do
  let (y, yRows) ← latitude.coordinate
  if !y.isFinite then .error (notFinite latitude longitude)
  else
    let (x, xRows) ← longitude.coordinate
    if !x.isFinite then .error (notFinite latitude longitude)
    else if yRows ≠ 0 then .error (.noOrder "<=" "float" latitude.kindName)
    else return { (← checked y x) with rows := xRows }

/-- A coordinate in radians. A truth value is reckoned in half precision, where one degree is
0.0174560546875. -/
def radians : Number → Except Error Float
  | .truth b => .ok (if b then 0.0174560546875 else 0.0)
  | n => do return (← n.toFloat) * 0.017453292519943295

/-- Latitude and longitude in radians. -/
def inRadians (p : Point) : Except Error (Float × Float) := do
  let latitude ← radians p.latitude
  if p.rows = 0 then return (latitude, ← radians p.longitude)
  else .error .notOneNumber

/-- The longitude as a number to reckon with. -/
def reckonedLongitude (p : Point) : Except Error Float :=
  match p.rows with
  | 0 => p.longitude.toFloat
  | 1 => .error (.notReal "tuple")
  | _ => .error (.noRealNumber "tuple")

/-- Refuses a point whose longitude stands in a row in a row: nothing can be said of such points,
whatever others they are looked at with. -/
def checkRows (p : Point) : Except Error Unit :=
  if 1 < p.rows then .error (.noRealNumber "tuple") else .ok ()

end Point

end MetesBounds
