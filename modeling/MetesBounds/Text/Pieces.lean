/-!
# `Text/Pieces` — cutting a text at a separator, and joining pieces

`pieces` cuts at every occurrence of a non-empty separator, from left to right and without
overlap; joining the pieces with the separator gives the text back.
-/

set_option autoImplicit false

namespace MetesBounds.Text

/-- What follows `start` in `cs`, if `cs` begins with it. -/
def after? : List Char → List Char → Option (List Char)
  | [], cs => some cs
  | _ :: _, [] => none
  | s :: start, c :: cs => if s = c then after? start cs else none

theorem after?_eq_some_iff {start cs rest : List Char} :
    after? start cs = some rest ↔ cs = start ++ rest := by
  induction start generalizing cs with
  | nil => simp [after?, eq_comm]
  | cons s start ih =>
    cases cs with
    | nil => simp [after?]
    | cons c cs =>
      by_cases h : s = c
      · simp [after?, h, ih]
      · simp [after?, h, Ne.symm h]

theorem length_of_after? {start cs rest : List Char} (h : after? start cs = some rest) :
    cs.length = start.length + rest.length := by
  rw [after?_eq_some_iff.1 h]; simp

/-- The pieces of a text of which the current piece has begun with `begun`, last character
first. The separator is `s :: sep`. -/
def piecesFrom (s : Char) (sep : List Char) (begun : List Char) (cs : List Char) :
    List (List Char) :=
  match _cut : after? (s :: sep) cs with
  | some rest => begun.reverse :: piecesFrom s sep [] rest
  | none =>
    match cs with
    | [] => [begun.reverse]
    | c :: rest => piecesFrom s sep (c :: begun) rest
termination_by cs.length
decreasing_by
  · have := length_of_after? _cut; simp at this; omega
  · simp

/-- The pieces of a row of characters between occurrences of a separator; an empty separator cuts
nowhere. -/
def cut (sep cs : List Char) : List (List Char) :=
  match sep with
  | [] => [cs]
  | s :: rest => piecesFrom s rest [] cs

/-- The pieces of a text between occurrences of a separator. -/
def pieces (sep s : String) : List String := (cut sep.toList s.toList).map String.ofList

/-- Whether a text begins with another. -/
def beginsWith (start s : String) : Bool := (after? start.toList s.toList).isSome

/-- What follows `start` in a text that begins with it. -/
def afterStart? (start s : String) : Option String :=
  (after? start.toList s.toList).map String.ofList

/-- What precedes `stop` in a text that ends with it. -/
def beforeEnd? (stop s : String) : Option String :=
  (after? stop.toList.reverse s.toList.reverse).map fun r => String.ofList r.reverse

/-- Texts with a comma and a space between neighbours. -/
def listed (items : List String) : String := ", ".intercalate items

end MetesBounds.Text
