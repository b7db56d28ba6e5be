import MetesBounds.Text.Encoding.Grid.Jis0208
import MetesBounds.Text.Encoding.Grid.Jis0212
import MetesBounds.Text.Encoding.Grid.Jis0213
import MetesBounds.Text.Encoding.Grid.Page932
import MetesBounds.Text.Encoding.Multibyte

/-!
# `Text/Encoding/Japanese` — Japanese in two bytes and three

Shift JIS puts two rows of JIS X 0208 into one and keeps single bytes for half-width syllables. The
extended code for Unix gives both bytes their highest bit, and has half-width syllables and a second
set after a byte of their own. Both exist for JIS X 0213 too, in its form of 2000 and of 2004.
-/

set_option autoImplicit false

namespace MetesBounds.Text

open Grid

namespace Japanese

/-! ## Sets -/

/-- Cells of the first plane of JIS X 0213, counted through its rows, with the mark that follows
their letter. -/
def markedCells : List (Nat × Char) := [
  (368, '\u309a'), (369, '\u309a'), (370, '\u309a'), (371, '\u309a'), (372, '\u309a'),
  (462, '\u309a'), (463, '\u309a'), (464, '\u309a'), (465, '\u309a'), (466, '\u309a'),
  (467, '\u309a'), (468, '\u309a'), (469, '\u309a'), (557, '\u309a'), (975, '\u0300'),
  (979, '\u0300'), (980, '\u0301'), (981, '\u0300'), (982, '\u0301'), (983, '\u0300'),
  (984, '\u0301'), (985, '\u0300'), (986, '\u0301'), (1008, '\u02e5'), (1009, '\u02e9')
]

/-- Cells of the first plane that were empty in 2000. -/
def newCells : List Nat :=
  [1222, 1409, 4375, 4417, 7808, 8831, 8832, 8833, 8834, 8835]

/-- The characters in a cell of the first plane of JIS X 0213, in its form of 2000 or of 2004. -/
def firstPlane (of2000 : Bool) (cell : Nat × Nat) : Option (List Char) :=
  let n := cell.1 * 94 + cell.2
  if of2000 && newCells.contains n then none
  else
    match jis0208.find cell with
    | some cs => some cs
    | none =>
      (jis0213First.char? cell.1 cell.2).map fun c =>
        c :: (markedCells.filter fun e => e.1 == n).map Prod.snd

/-- What bytes begin with in the form of 2000: two that stand for a cell that was empty then are
refused together. -/
def in2000 (cell? : Nat → Nat → Option (Nat × Nat)) (a : UInt8) (rest : List UInt8) :
    Multibyte.Start → Multibyte.Start
  | .illegal size =>
    let wasEmpty := (rest.head?.bind fun b => cell? a.toNat b.toNat).any fun cell =>
      newCells.contains (cell.1 * 94 + cell.2)
    .illegal (if wasEmpty then 2 else size)
  | start => start

/-- The character in a cell of the second plane of JIS X 0213. One was replaced in 2004. -/
def secondPlane (of2000 : Bool) (cell : Nat × Nat) : Option (List Char) :=
  if of2000 && cell == (92, 26) then some ['\u9b1d'] else jis0213Second.find cell

/-! ## Shift JIS -/

/-- Whether a byte is a half-width syllable. -/
def isHalfWidth (b : UInt8) : Bool := 0xA1 ≤ b && b ≤ 0xDF

/-- The cell of two bytes in rows of one hundred and eighty-eight cells. -/
def wideCell (a b : Nat) : Option (Nat × Nat) :=
  if b < 0x40 || b == 0x7F || 0xFC < b then none
  else some (if a < 0xE0 then a - 0x81 else a - 0xC1, if b < 0x80 then b - 0x40 else b - 0x41)

/-- The cell in rows half as long. -/
def narrowCell (cell : Nat × Nat) : Nat × Nat :=
  if cell.2 < 94 then (2 * cell.1, cell.2) else (2 * cell.1 + 1, cell.2 - 94)

/-- The cell of two bytes in Shift JIS. -/
def shiftedCell (a b : Nat) : Option (Nat × Nat) := (wideCell a b).map narrowCell

/-- Shift JIS with the last byte that may be the first of two, and with what it has for two. -/
def shifted (lastLead : UInt8) (find : Nat × Nat → Option (List Char)) (b : UInt8)
    (rest : List UInt8) : Multibyte.Start :=
  if isHalfWidth b then .chars [Multibyte.halfWidth b.toNat] 1
  else if (0x81 ≤ b && b ≤ 0x9F) || (0xE0 ≤ b && b ≤ lastLead) then
    Multibyte.double (fun a b => (shiftedCell a b).bind find) b rest
  else .illegal 1

/-- Shift JIS. -/
def shiftJis : Multibyte :=
  .plain "shift_jis" fun b rest =>
    if b < 0x80 then .single b else shifted 0xEA jis0208.find b rest

/-- The row of the second plane of JIS X 0213 that a row after the first plane is. -/
def secondRow (row : Nat) : Nat :=
  if 0x67 ≤ row then row + 7 - 0x21
  else if 0x63 ≤ row || row == 0x5F then row - 0x37 - 0x21
  else row - 0x3D - 0x21

/-- The characters of a cell in Shift JIS for JIS X 0213. The backslash and the tilde, which are
not among the single bytes, have cells. -/
def shifted0213 (of2000 : Bool) (cell : Nat × Nat) : Option (List Char) :=
  if cell == (0, 31) then some ['\x5c']
  else if cell == (1, 17) then some ['~']
  else if cell.1 < 94 then firstPlane of2000 cell
  else secondPlane of2000 (secondRow cell.1, cell.2)

/-- The Latin characters of JIS X 0201, which has a yen sign and an overline. -/
def latin (b : UInt8) : Char :=
  if b == 0x5C then '¥' else if b == 0x7E then '‾' else Char.ofNat b.toNat

/-- Shift JIS for JIS X 0213. -/
def shiftJis0213 (name : String) (of2000 : Bool) : Multibyte :=
  .plain name fun b rest =>
    if b < 0x80 then .chars [latin b] 1
    else
      let start := shifted 0xFC (shifted0213 of2000) b rest
      if of2000 then in2000 shiftedCell b rest start else start

/-- What the code page 932 has for two bytes. -/
def found932 (a b : Nat) : Option (List Char) :=
  (wideCell a b).bind fun cell =>
    (page932.find cell).or (if a ≤ 0xEA then jis0208.find (narrowCell cell) else none)

/-- The code page 932, in which no byte stands for nothing. -/
def codePage932 : Multibyte :=
  .plain "cp932" fun b rest =>
    if b ≤ 0x80 then .single b
    else if b == 0xA0 then .chars ['\uf8f0'] 1
    else if 0xFD ≤ b then .chars [Char.ofNat (0xF8F1 - 0xFD + b.toNat)] 1
    else if isHalfWidth b then .chars [Multibyte.halfWidth b.toNat] 1
    else Multibyte.double found932 b rest

/-! ## The extended code for Unix -/

/-- A half-width syllable after its byte. -/
def syllableAfter : List UInt8 → Multibyte.Start
  | [] => .incomplete
  | b :: _ => if isHalfWidth b then .chars [Multibyte.halfWidth b.toNat] 2 else .illegal 1

/-- Two bytes of a second set after its byte. -/
def secondAfter (find : Nat × Nat → Option (List Char)) : List UInt8 → Multibyte.Start
  | a :: b :: _ =>
    match (Multibyte.cell94 a.toNat b.toNat).bind find with
    | some cs => .chars cs 3
    | none => .illegal 1
  | _ => .incomplete

/-- The extended code for Unix with two sets. -/
def extendedUnix (first second : Nat × Nat → Option (List Char)) (b : UInt8) (rest : List UInt8) :
    Multibyte.Start :=
  if b < 0x80 then .single b
  else if b == 0x8E then syllableAfter rest
  else if b == 0x8F then secondAfter second rest
  else Multibyte.double (fun a b => (Multibyte.cell94 a b).bind first) b rest

/-- The extended code for JIS X 0208 and JIS X 0212. -/
def eucJp : Multibyte := .plain "euc_jp" (extendedUnix jis0208.find jis0212.find)

/-- The extended code for JIS X 0213, where the second plane leaves room for JIS X 0212. -/
def eucJis0213 (name : String) (of2000 : Bool) : Multibyte :=
  .plain name fun b rest =>
    let start := extendedUnix (firstPlane of2000)
      (fun cell => (secondPlane of2000 cell).or (jis0212.find cell)) b rest
    if of2000 then in2000 Multibyte.cell94 b rest start else start

/-- The encodings of this module. -/
def all : List Multibyte := [
  shiftJis, shiftJis0213 "shift_jis_2004" false, shiftJis0213 "shift_jisx0213" true, codePage932,
  eucJp, eucJis0213 "euc_jis_2004" false, eucJis0213 "euc_jisx0213" true
]

end Japanese

end MetesBounds.Text
