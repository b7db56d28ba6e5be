import MetesBounds.Reckoning

/-!
# `Angle` — degrees, minutes and seconds as text

An angle is written as degrees, minutes and seconds, each a row of digits; a degree sign, an
apostrophe and a double quote may follow them, and spaces may stand between. Minutes and seconds
have one or two digits. Where no sign or space separates the rows, the text can be read in several
ways; the reading with the longest degrees counts, then the one with the longest minutes, then the
one with the longest seconds. `Dms.read` tries the readings in that order, so the first that
reaches the end is the one that counts.

Main definitions: `Dms.read` (from characters), `Dms.value` (the number of degrees),
`angleOfValue` (from a field).
-/

set_option autoImplicit false

namespace MetesBounds

/-- An angle as it is written: the digits of its degrees, minutes and seconds. -/
structure Dms where
  degrees : List Char
  minutes : List Char
  seconds : List Char

namespace Dms

/-- The characters without spaces at the front. -/
def dropSpaces (cs : List Char) : List Char := cs.dropWhile (· == ' ')

/-- The characters without a mark at the front, if it is there. -/
def dropMark (mark : Char) : List Char → List Char
  | [] => []
  | c :: rest => if c == mark then rest else c :: rest

/-- Ways to take the digits of degrees off the front, longest first. What is left of the row of
digits has to serve as minutes and seconds, at most four digits; so no more than four digits are
left over. -/
def longRuns (cs : List Char) : List (List Char × List Char) :=
  let run := cs.takeWhile Text.isDigit
  let rest := cs.dropWhile Text.isDigit
  (List.range (min run.length 5)).map fun held =>
    (run.take (run.length - held), run.drop (run.length - held) ++ rest)

/-- Ways to take one or two digits off the front, two first. -/
def shortRuns : List Char → List (List Char × List Char)
  | [] => []
  | [a] => if Text.isDigit a then [([a], [])] else []
  | a :: b :: rest =>
    if Text.isDigit a then
      if Text.isDigit b then [([a, b], rest), ([a], b :: rest)] else [([a], b :: rest)]
    else []

/-- An angle at the front of the characters, together with what `finish` makes of the characters
after it: the first reading for which `finish` succeeds. -/
def readThen {β : Type} (finish : List Char → Option β) (cs : List Char) : Option (Dms × β) :=
  (longRuns cs).findSome? fun d =>
    (shortRuns (dropSpaces (dropMark '°' d.2))).findSome? fun m =>
      (shortRuns (dropSpaces (dropMark '\x27' m.2))).findSome? fun s =>
        (finish (dropSpaces (dropMark '\x22' s.2))).map fun b => (⟨d.1, m.1, s.1⟩, b)

/-- The end of a text: nothing, or one end of line. -/
def atEnd : List Char → Bool
  | [] => true
  | ['\n'] => true
  | _ => false

/-- An angle that is the whole of a text. -/
def read (cs : List Char) : Option Dms :=
  (readThen (fun rest => if atEnd rest then some () else none) (dropSpaces cs)).map Prod.fst

/-- A row of digits as a whole number. Too many digits are refused. -/
def countOf (ds : List Char) : Except Error Nat :=
  if ds.length ≤ Number.mostDigits then .ok (Text.digitsValue ds)
  else .error (.tooManyDigits ds.length)

/-- The number of degrees: degrees, and minutes in sixtieths, and seconds in three thousand six
hundredths. -/
def value {α : Type} (k : Reckoning α) (a : Dms) : Except Error α := do
  let degrees ← countOf a.degrees
  let minutes ← countOf a.minutes
  let seconds ← countOf a.seconds
  let whole ← k.count degrees
  return k.add (k.add whole (k.div (k.small minutes) (k.small 60)))
    (k.div (k.small seconds) (k.small 3600))

end Dms

/-- The angle that a field gives, in degrees: its text is read, whatever kind of value it is. -/
def angleOfValue {α : Type} (k : Reckoning α) (v : Value) : Except Error α := do
  let s ← v.plainText
  match Dms.read s.toList with
  | some a => a.value k
  | none => .error (.badAngle v.shown)

end MetesBounds
