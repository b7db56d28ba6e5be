import MetesBounds.Text.Encoding.Grid.Big5
import MetesBounds.Text.Encoding.Grid.Gb2312
import MetesBounds.Text.Encoding.Grid.Gbk
import MetesBounds.Text.Encoding.Grid.Hkscs
import MetesBounds.Text.Encoding.Multibyte

/-!
# `Text/Encoding/Chinese` — Chinese in two bytes and four

GB 2312 gives both bytes their highest bit. GBK fills the rows around it, mostly with the ideographs
of the first block that GB 2312 lacks, in order. GB 18030 adds sequences of four bytes, which count
through everything that has no two: first what is left of the first plane, in order, then all other
planes. HZ keeps to seven bits and switches between ASCII and GB 2312. Big5 is a set of its own,
with a code page and a supplement.
-/

set_option autoImplicit false

namespace MetesBounds.Text

open Grid

namespace Chinese

/-! ## GB 2312 and what extends it -/

/-- The cell of two bytes in rows of one hundred and ninety cells. -/
def cell190 (a b : Nat) : Option (Nat × Nat) :=
  if a < 0x81 || 0xFE < a || b < 0x40 || b == 0x7F || 0xFE < b then none
  else some (a - 0x81, if b < 0x7F then b - 0x40 else b - 0x41)

/-- The ideographs of the first block that GB 2312 lacks, in order. -/
def ideographs : Array Char := unmarked (marks 0xA000 gb2312.cells.toList) 0x4E00 0x9FA5

/-- The place of two bytes among these ideographs: first come whole rows, then the first
ninety-six cells of others. -/
def ideographPlace (cell : Nat × Nat) : Option Nat :=
  if cell.1 < 32 then some (cell.1 * 190 + cell.2)
  else if 41 ≤ cell.1 && cell.2 < 96 then some (32 * 190 + (cell.1 - 41) * 96 + cell.2)
  else none

/-- What GB 2312 has for two bytes. -/
def foundGb2312 (a b : Nat) : Option (List Char) := (Multibyte.cell94 a b).bind gb2312.find

/-- What GBK has for two bytes. -/
def foundGbk (a b : Nat) : Option (List Char) :=
  ((cell190 a b).bind gbkSigns.find).or <|
    (foundGb2312 a b).or <|
      (((cell190 a b).bind ideographPlace).bind fun n => ideographs[n]?).map ([·])

/-- What GB 18030 has for two bytes. -/
def foundGb18030 (a b : Nat) : Option (List Char) :=
  ((cell190 a b).bind gb18030Signs.find).or (foundGbk a b)

/-- GB 2312. -/
def gb2312Code : Multibyte := .doubled "gb2312" foundGb2312

/-- GBK. -/
def gbk : Multibyte := .doubled "gbk" foundGbk

/-- Everything that GB 18030 has for two bytes. -/
def twoByteChars : List Char :=
  (List.range 126).flatMap fun a => (List.range 191).flatMap fun b =>
    (foundGb18030 (0x81 + a) (0x40 + b)).getD []

/-- What is left of the first plane, in order, without the surrogates. -/
def leftOver : Array Char :=
  let marks := marks 0x10000 twoByteChars
  unmarked marks 0x80 0xD7FF ++ unmarked marks 0xE000 0xFFFF

/-- The character of four bytes, each counted from its least value. -/
def ofFour (a b c d : Nat) : Option Char :=
  let n := b * 1260 + c * 10 + d
  if a < 4 then leftOver[a * 12600 + n]?
  else if 15 ≤ a then
    let code := 0x10000 + (a - 15) * 12600 + n
    if code ≤ 0x10FFFF then some (Char.ofNat code) else none
  else none

/-- Four bytes after the first two of them. -/
def four (a b : UInt8) : List UInt8 → Multibyte.Start
  | c :: d :: _ =>
    let isHigh (x : UInt8) : Bool := 0x81 ≤ x && x ≤ 0xFE
    if isHigh a && isHigh c && 0x30 ≤ d && d ≤ 0x39 then
      match ofFour (a.toNat - 0x81) (b.toNat - 0x30) (c.toNat - 0x81) (d.toNat - 0x30) with
      | some c => .chars [c] 4
      | none => .illegal 1
    else .illegal 1
  | _ => .incomplete

/-- GB 18030. -/
def gb18030 : Multibyte :=
  .plain "gb18030" fun a rest =>
    if a < 0x80 then .single a
    else
      match rest with
      | b :: more =>
        if 0x30 ≤ b && b ≤ 0x39 then four a b more else Multibyte.double foundGb18030 a rest
      | [] => .incomplete

/-! ## HZ -/

/-- Two bytes that begin with a tilde. -/
def afterTilde (inGb : Bool) : List UInt8 → Bool × Multibyte.Start
  | [] => (inGb, .incomplete)
  | b :: _ =>
    if b == 0x7E && !inGb then (false, .chars ['~'] 2)
    else if b == 0x7B && !inGb then (true, .chars [] 2)
    else if b == 0x0A && !inGb then (false, .chars [] 2)
    else if b == 0x7D && inGb then (false, .chars [] 2)
    else (inGb, .illegal 1)

/-- What GB 2312 has for two bytes without their highest bits. -/
def foundLow (a b : Nat) : Option (List Char) :=
  if b < 0x80 then foundGb2312 (a + 0x80) (b + 0x80) else none

/-- HZ. -/
def hz : Multibyte :=
  .switching "hz" false fun inGb b rest =>
    if b == 0x7E then afterTilde inGb rest
    else if 0x80 ≤ b then (inGb, .illegal 1)
    else if inGb then (true, Multibyte.double foundLow b rest)
    else (false, .single b)

/-! ## Big5 -/

/-- The cell of two bytes in rows of one hundred and fifty-seven cells. -/
def cell157 (a b : Nat) : Option (Nat × Nat) :=
  if a < 0x81 || 0xFE < a || b < 0x40 || (0x7E < b && b < 0xA1) || 0xFE < b then none
  else some (a - 0x81, if b < 0x7F then b - 0x40 else b - 0x62)

/-- What Big5 has for two bytes. -/
def foundBig5 (a b : Nat) : Option (List Char) := (cell157 a b).bind big5.find

/-- Big5. -/
def big5Code : Multibyte := .doubled "big5" foundBig5

/-- The code page 950. -/
def codePage950 : Multibyte :=
  .doubled "cp950" fun a b => ((cell157 a b).bind page950.find).or (foundBig5 a b)

/-- Cells of the supplement, counted through its rows, with the mark that follows their letter. -/
def markedCells : List (Nat × Char) :=
  [(1133, '\u0304'), (1135, '\u030c'), (1164, '\u0304'), (1166, '\u030c')]

/-- What the supplement has in a cell. -/
def supplement (cell : Nat × Nat) : Option (List Char) :=
  (hkscs.char? cell.1 cell.2).map fun c =>
    c :: (markedCells.filter fun e => e.1 == cell.1 * 157 + cell.2).map Prod.snd

/-- Big5 with the supplement, which has some rows to itself. -/
def big5Hkscs : Multibyte :=
  .doubled "big5hkscs" fun a b =>
    let isShared := a < 0xC6 || 0xC8 < a || (a < 0xC7 && b < 0xA1)
    ((if isShared then foundBig5 a b else none)).or ((cell157 a b).bind supplement)

/-- The encodings of this module. -/
def all : List Multibyte := [gb2312Code, gbk, gb18030, hz, big5Code, codePage950, big5Hkscs]

end Chinese

end MetesBounds.Text
