/-!
# `Text/Encoding/Grid` — sets of characters in rows and cells

The scripts of East Asia have more characters than a byte has values. Their sets are laid out in
rows of equally many cells, and two bytes tell the row and the cell. A set is written down as
segments: characters that fill cells from one on, with U+FFFE for a cell that stays empty, or
characters with consecutive codes.
-/

set_option autoImplicit false

namespace MetesBounds.Text

/-- Neighbouring cells, counted through all rows. -/
inductive Segment where
  /-- Characters from a cell on. -/
  | listed (first : Nat) (rows : List String)
  /-- So many characters with consecutive codes from a cell on. -/
  | rising (first code count : Nat)

/-- The first cell of a segment, and its characters. -/
def Segment.chars : Segment → Nat × List Char
  | .listed first rows => (first, rows.flatMap String.toList)
  | .rising first code count => (first, (List.range count).map fun n => Char.ofNat (code + n))

/-- A set of characters in cells; a cell may be empty. -/
structure Grid where
  columns : Nat
  cells : Array Char

namespace Grid

/-- What stands for an empty cell. -/
def empty : Char := '\ufffe'

/-- A row of characters put into cells from one on, as far as there are any. -/
def fill (cells : Array Char) : Nat → List Char → Array Char
  | _, [] => cells
  | i, c :: cs => fill (cells.setIfInBounds i c) (i + 1) cs

/-- The set that segments make. There are as many rows as two bytes can tell. -/
def ofSegments (columns : Nat) (segments : List Segment) : Grid where
  columns := columns
  cells :=
    segments.foldl (fun cells s => fill cells s.chars.1 s.chars.2)
      (Array.replicate (128 * columns) empty)

/-- The character in a cell. -/
def char? (g : Grid) (row column : Nat) : Option Char :=
  if column < g.columns then g.cells[row * g.columns + column]?.filter (· != empty) else none

/-- The character in a cell, for what may have several. -/
def find (g : Grid) (cell : Nat × Nat) : Option (List Char) := (g.char? cell.1 cell.2).map ([·])

/-- Which codes below `count` some characters have. -/
def marks (count : Nat) (cs : List Char) : Array Bool :=
  cs.foldl (fun marks c => marks.setIfInBounds c.toNat true) (Array.replicate count false)

/-- The codes from `low` to `high` whose characters are not marked, as characters. -/
def unmarked (marks : Array Bool) (low high : Nat) : Array Char :=
  (((List.range (high + 1)).drop low).filter fun n => marks[n]? != some true).toArray.map
    Char.ofNat

end Grid

end MetesBounds.Text
