import MetesBounds.Point
import MetesBounds.Text.Quoted
import MetesBounds.Text.Pieces

/-!
# `Value` — what a field of a call may hold, and what a call may produce

Fields are given as text, numbers, references to earlier results, or rows of these; calls produce
points, numbers, or whatever a procedure of the caller's returns. `shown` writes a value so that
its kind can be told, as messages do; `plain` writes it as plain text, where only texts and
references differ from `shown`. Both say how a value is written where it can be: of one that holds
a whole number of too many digits, `isOverlong`, there is no text, and whoever wants it fails.
-/

set_option autoImplicit false

namespace MetesBounds

/-- A value. `running` stands for the traverse under evaluation where a procedure is handed it, and
carries how that traverse is shown, or nothing if it cannot be. -/
inductive Value where
  | nothing
  | number (n : Number)
  | text (s : String)
  | reference (name : String)
  | point (p : Point)
  | row (items : List Value)
  | labelled (entries : List (String × Value))
  | running (traverse : Option String)

namespace Value

/-- A reference as messages show it. -/
def shownReference (name : String) : String := "SymbolRef(name=" ++ Text.quoted name ++ ")"

mutual

/-- A value as messages show it. -/
def shown : Value → String
  | nothing => "None"
  | number n => n.text
  | text s => Text.quoted s
  | reference name => shownReference name
  | point p => p.shown
  | row items =>
    match shownItems items with
    | [] => "()"
    | [item] => "(" ++ item ++ ",)"
    | items => "(" ++ Text.listed items ++ ")"
  | labelled entries => "\x7b" ++ Text.listed (shownEntries entries) ++ "\x7d"
  | running traverse => traverse.getD ""

/-- The items of a row as messages show them. -/
def shownItems : List Value → List String
  | [] => []
  | v :: rest => shown v :: shownItems rest

/-- Labelled values as messages show them. -/
def shownEntries : List (String × Value) → List String
  | [] => []
  | (name, v) :: rest => (Text.quoted name ++ ": " ++ shown v) :: shownEntries rest

end

/-- A value as plain text. -/
def plain : Value → String
  | text s => s
  | reference name => "$" ++ name
  | v => shown v

mutual

/-- Whether there is a whole number in a value that has too many digits to be written, so that the
value cannot be written either. The coordinates of a point are short. -/
def isOverlong : Value → Bool
  | number n => n.isOverlong
  | row items => isOverlongAmong items
  | labelled entries => isOverlongEntry entries
  | running traverse => traverse.isNone
  | _ => false

/-- Whether there is one in some values. -/
def isOverlongAmong : List Value → Bool
  | [] => false
  | v :: rest => isOverlong v || isOverlongAmong rest

/-- Whether there is one in some labelled values. -/
def isOverlongEntry : List (String × Value) → Bool
  | [] => false
  | (_, v) :: rest => isOverlong v || isOverlongEntry rest

end

mutual

/-- A value in which every traverse under evaluation is shown as `f` says. -/
def mapRunning (f : Option String → Option String) : Value → Value
  | row items => row (mapRunningItems f items)
  | labelled entries => labelled (mapRunningEntries f entries)
  | running traverse => running (f traverse)
  | v => v

/-- The items of a row, changed in the same way. -/
def mapRunningItems (f : Option String → Option String) : List Value → List Value
  | [] => []
  | v :: rest => mapRunning f v :: mapRunningItems f rest

/-- Labelled values, changed in the same way. -/
def mapRunningEntries (f : Option String → Option String) :
    List (String × Value) → List (String × Value)
  | [] => []
  | (name, v) :: rest => (name, mapRunning f v) :: mapRunningEntries f rest

end

/-- The name of a value's kind. -/
def kindName : Value → String
  | nothing => "NoneType"
  | number (.truth _) => "bool"
  | number (.whole _) => "int"
  | number (.real _) => "float"
  | text _ => "str"
  | reference _ => "SymbolRef"
  | point _ => "GeoPoint"
  | row _ => "tuple"
  | labelled _ => "dict"
  | running _ => "TraverseContext"

/-- The full name of a value's kind, which messages about units give. -/
def fullKindName : Value → String
  | reference _ => "common.types.SymbolRef"
  | point _ => "common.types.GeoPoint"
  | running _ => "traverse.context.TraverseContext"
  | v => v.kindName

/-- A whole number. -/
abbrev ofInt (n : Int) : Value := number (.whole n)

/-- A double. -/
abbrev ofFloat (x : Float) : Value := number (.real x)

/-- The values that a value strings together: the items of a row, the characters of a text, the
labels of labelled values. -/
def items? : Value → Option (List Value)
  | row items => some items
  | text s => some (s.toList.map fun c => text (String.singleton c))
  | labelled entries => some (entries.map fun e => text e.1)
  | _ => none

mutual

/-- The kind of the first part of a value that nothing can be kept under. -/
def unkeyed? : Value → Option String
  | labelled _ => some "dict"
  | running _ => some "TraverseContext"
  | row items => unkeyedAmong? items
  | _ => none

/-- The kind of the first part of some values that nothing can be kept under. -/
def unkeyedAmong? : List Value → Option String
  | [] => none
  | v :: rest => (unkeyed? v).or (unkeyedAmong? rest)

end

/-- A value in rows of one item, one inside the other. -/
def inRows (v : Value) : Nat → Value
  | 0 => v
  | n + 1 => row [inRows v n]

/-- Whether a value says nothing: nothing itself, a number that is zero, and whatever has no
parts. -/
def isVoid : Value → Bool
  | nothing => true
  | number n => n.isZero
  | text s => s.isEmpty
  | row items => items.isEmpty
  | labelled entries => entries.isEmpty
  | _ => false

end Value

end MetesBounds
