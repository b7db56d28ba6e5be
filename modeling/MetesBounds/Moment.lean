/-!
# `Moment` — points in time as text

A moment is counted from the beginning of 1970. Trails mark their steps with moments, files are
named after them, and the lines of a log begin with them.
-/

set_option autoImplicit false

namespace MetesBounds

/-- A moment: seconds since the beginning of 1970, and microseconds. -/
structure Moment where
  seconds : Nat
  micros : Nat

namespace Moment

/-- A number filled with zeros to a width. -/
def digits (width n : Nat) : String :=
  let ds := Nat.toDigits 10 n
  String.ofList (List.replicate (width - ds.length) '0' ++ ds)

/-- Year, month and day of a day counted from the beginning of 1970. Counted from the first of
March of the year 0, four centuries have 146097 days, and the leap day is the last of its year. -/
def civil (day : Nat) : Nat × Nat × Nat :=
  let z := day + 719468
  let dayOfEra := z % 146097
  let yearOfEra :=
    (dayOfEra - dayOfEra / 1460 + dayOfEra / 36524 - dayOfEra / 146096) / 365
  let dayOfYear := dayOfEra - (365 * yearOfEra + yearOfEra / 4 - yearOfEra / 100)
  let shifted := (5 * dayOfYear + 2) / 153
  let month := if shifted < 10 then shifted + 3 else shifted - 9
  let year := z / 146097 * 400 + yearOfEra + (if month ≤ 2 then 1 else 0)
  (year, month, dayOfYear - (153 * shifted + 2) / 5 + 1)

/-- A date and a time of day, with the given separators. -/
def written (m : Moment) (dash between colon : String) : String :=
  let (year, month, day) := civil (m.seconds / 86400)
  let s := m.seconds % 86400
  digits 4 year ++ dash ++ digits 2 month ++ dash ++ digits 2 day ++ between ++
    digits 2 (s / 3600) ++ colon ++ digits 2 (s / 60 % 60) ++ colon ++ digits 2 (s % 60)

/-- A moment in a trail. -/
def iso (m : Moment) : String := m.written "-" "T" ":" ++ "." ++ digits 6 m.micros

/-- A moment in the name of a file. -/
def inName (m : Moment) : String := m.written "" "_" ""

/-- A moment at the beginning of a line that is printed. -/
def inLine (m : Moment) : String := m.written "-" " " ":"

/-- A moment at the beginning of a line in a file. -/
def inFile (m : Moment) : String := m.inLine ++ "," ++ digits 3 (m.micros / 1000)

end Moment

end MetesBounds
