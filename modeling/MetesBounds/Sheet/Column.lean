import MetesBounds.Text.Blank
import MetesBounds.Text.Letter

/-!
# `Sheet/Column` — the field that a column name stands for

Column names are written in whatever style the sheet's author prefers: `TurnForCenter`,
`Turn For Center` or `TURN_FOR_CENTER`. All of these stand for one field, written in small letters
with underscores.
-/

set_option autoImplicit false

namespace MetesBounds.Sheet

/-- A character after which a capital begins a new word. -/
def endsWord (c : Char) : Bool := ('a' ≤ c && c ≤ 'z') || ('0' ≤ c && c ≤ '9')

/-- A plain capital letter. -/
def isCapital (c : Char) : Bool := 'A' ≤ c && c ≤ 'Z'

/-- Characters with an underscore before each capital that begins a new word; `before` is the
character before. -/
def markWords (before : Char) : List Char → List Char
  | [] => []
  | c :: rest =>
    if endsWord before && isCapital c then '_' :: c :: markWords c rest
    else c :: markWords c rest

/-- The field that a column name stands for. -/
def columnField (column : String) : String :=
  let marked := markWords ' ' (Text.trimBoth Text.isBlank column.toList)
  Text.toLower (String.ofList (marked.map fun c => if c == ' ' then '_' else c))

end MetesBounds.Sheet
