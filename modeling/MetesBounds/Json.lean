import MetesBounds.Value

/-!
# `Json` — audit trails and configurations as text

`Json.compact` writes a document on one line, `Json.indented` over several lines. Texts are
written in ASCII: any other character by its units in UTF-16, of which half a character has one. An
object keeps the order of its entries; `Value.toJson` sorts them by name, so that the text of a
configuration does not depend on the order in which it was put together. As with `Value.shown`, it
is the text of a value that can be written.
-/

set_option autoImplicit false

namespace MetesBounds

/-- A document. A number is held as it is written. -/
inductive Json where
  | null
  | truth (b : Bool)
  | number (written : List Char)
  | text (cs : List Char)
  | array (items : List Json)
  | object (entries : List (List Char × Json))

namespace Json

/-! ## Texts -/

/-- A UTF-16 unit as an escape. -/
def escapeUnit (n : Nat) : List Char := '\x5c' :: 'u' :: Text.Quoted.hex 4 n

/-- One character of a text. -/
def escape (c : Char) : List Char :=
  if c == '\x22' || c == '\x5c' then ['\x5c', c]
  else if c == '\n' then ['\x5c', 'n']
  else if c == '\r' then ['\x5c', 'r']
  else if c == '\t' then ['\x5c', 't']
  else if c == '\x08' then ['\x5c', 'b']
  else if c == '\x0c' then ['\x5c', 'f']
  else if 0x20 ≤ c.toNat && c.toNat < 0x7F then [c]
  else if c.toNat < 0x10000 then escapeUnit c.toNat
  else
    escapeUnit (0xD800 + (c.toNat - 0x10000) / 0x400) ++
      escapeUnit (0xDC00 + (c.toNat - 0x10000) % 0x400)

/-- What is written for a character or half. -/
def escapeCode (n : Nat) : List Char :=
  if Text.isSurrogate n then escapeUnit n else escape (Char.ofNat n)

/-- A text in quotation marks. -/
def writeText (cs : List Char) : List Char :=
  '\x22' :: (Text.codesOf cs).flatMap escapeCode ++ ['\x22']

/-- Pieces with a separator between neighbours. -/
def joined (sep : List Char) : List (List Char) → List Char
  | [] => []
  | [piece] => piece
  | piece :: rest => piece ++ sep ++ joined sep rest

/-! ## On one line -/

mutual

/-- A document on one line. -/
def compact : Json → List Char
  | null => "null".toList
  | truth b => (if b then "true" else "false").toList
  | number written => written
  | text cs => writeText cs
  | array items => '[' :: joined [',', ' '] (compactItems items) ++ [']']
  | object entries => '\x7b' :: joined [',', ' '] (compactEntries entries) ++ ['\x7d']

/-- The items of an array, each on one line. -/
def compactItems : List Json → List (List Char)
  | [] => []
  | j :: rest => compact j :: compactItems rest

/-- The entries of an object, each on one line. -/
def compactEntries : List (List Char × Json) → List (List Char)
  | [] => []
  | (name, j) :: rest => (writeText name ++ ':' :: ' ' :: compact j) :: compactEntries rest

end

/-! ## Over several lines -/

/-- The end of a line and the blanks at the beginning of the next. -/
def newLine (depth : Nat) : List Char := '\n' :: List.replicate (2 * depth) ' '

/-- Items of an array or object over several lines; an empty one stays on its line. -/
def block (depth : Nat) (opening closing : Char) (items : List (List Char)) : List Char :=
  if items.isEmpty then [opening, closing]
  else
    opening :: newLine (depth + 1) ++ joined (',' :: newLine (depth + 1)) items ++
      newLine depth ++ [closing]

mutual

/-- A document over several lines, inside `depth` others. -/
def indentedAt (depth : Nat) : Json → List Char
  | null => "null".toList
  | truth b => (if b then "true" else "false").toList
  | number written => written
  | text cs => writeText cs
  | array items => block depth '[' ']' (indentedItems (depth + 1) items)
  | object entries => block depth '\x7b' '\x7d' (indentedEntries (depth + 1) entries)

/-- The items of an array, each over several lines. -/
def indentedItems (depth : Nat) : List Json → List (List Char)
  | [] => []
  | j :: rest => indentedAt depth j :: indentedItems depth rest

/-- The entries of an object, each over several lines. -/
def indentedEntries (depth : Nat) : List (List Char × Json) → List (List Char)
  | [] => []
  | (name, j) :: rest =>
    (writeText name ++ ':' :: ' ' :: indentedAt depth j) :: indentedEntries depth rest

end

/-- A document over several lines. -/
def indented (j : Json) : String := String.ofList (indentedAt 0 j)

/-! ## Values -/

/-- A whole number. -/
def ofInt (n : Int) : Json := number (toString n).toList

/-- A text. -/
def ofString (s : String) : Json := text s.toList

/-- A number as a document: infinities and what is no number have names. -/
def ofNumber : Number → Json
  | .truth b => truth b
  | .whole n => ofInt n
  | .real x =>
    if x.isNaN then number "NaN".toList
    else if x.isFinite then number (Number.real x).text.toList
    else number (if x < 0.0 then "-Infinity" else "Infinity").toList

/-- Entries in the order of their names, which are compared by their codes. -/
def sortedByName (entries : List (List Char × Json)) : List (List Char × Json) :=
  entries.mergeSort fun a b => Text.isAtMostCodes (Text.codesOf a.1) (Text.codesOf b.1)

end Json

namespace Value

mutual

/-- A value as a document; points, references and the traverse as text. -/
def toJson : Value → Json
  | nothing => .null
  | number n => Json.ofNumber n
  | text s => Json.ofString s
  | row items => .array (toJsonItems items)
  | labelled entries => .object (Json.sortedByName (toJsonEntries entries))
  | v => Json.ofString v.plain

/-- The items of a row as documents. -/
def toJsonItems : List Value → List Json
  | [] => []
  | v :: rest => toJson v :: toJsonItems rest

/-- Labelled values as the entries of a document. -/
def toJsonEntries : List (String × Value) → List (List Char × Json)
  | [] => []
  | (name, v) :: rest => (name.toList, toJson v) :: toJsonEntries rest

end

/-- The text that a configuration is identified by. -/
def canonical (v : Value) : List Char := v.toJson.compact

end Value

end MetesBounds
