/-!
# `Text/Lines` — the lines of a text

A line ends at any of the characters that some system uses to end lines; a carriage return and a
line feed after it end one line together. The characters that end lines belong to none, and an
end of line at the end of the text begins no further line.
-/

set_option autoImplicit false

namespace MetesBounds.Text

/-- A character that ends a line. -/
def isLineBreak (c : Char) : Bool :=
  (0x0A ≤ c.toNat && c.toNat ≤ 0x0D) || (0x1C ≤ c.toNat && c.toNat ≤ 0x1E) ||
    c.toNat == 0x85 || c.toNat == 0x2028 || c.toNat == 0x2029

/-- The lines of a text of which the current line has begun with `begun`, last character first. -/
def linesFrom (begun : List Char) : List Char → List (List Char)
  | [] => if begun.isEmpty then [] else [begun.reverse]
  | '\r' :: '\n' :: rest => begun.reverse :: linesFrom [] rest
  | c :: rest =>
    if isLineBreak c then begun.reverse :: linesFrom [] rest else linesFrom (c :: begun) rest

/-- The lines of a text, in order. -/
def lines (s : String) : List String := (linesFrom [] s.toList).map String.ofList

/-- Characters in which every carriage return, with a line feed after it or without, is a line
feed. -/
def plainEndsFrom : List Char → List Char
  | [] => []
  | '\r' :: '\n' :: rest => '\n' :: plainEndsFrom rest
  | c :: rest => (if c == '\r' then '\n' else c) :: plainEndsFrom rest

/-- A text as it is read back from a file, where all lines end in one way. -/
def plainEnds (s : String) : String := String.ofList (plainEndsFrom s.toList)

end MetesBounds.Text
