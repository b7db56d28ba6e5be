import MetesBounds.Text.Encoding.Grid.Ks1001
import MetesBounds.Text.Encoding.Multibyte

/-!
# `Text/Encoding/Korean` — Korean in two bytes and eight

KS X 1001 gives both bytes their highest bit. It lacks most syllables: the extended code spells
those out in letters, in eight bytes, and the code page 949 gives them the cells around the set, in
order. Johab composes syllables, five bits for each of their letters.
-/

set_option autoImplicit false

namespace MetesBounds.Text

open Grid

namespace Korean

/-- What KS X 1001 has for two bytes. -/
def foundKs1001 (a b : Nat) : Option (List Char) := (Multibyte.cell94 a b).bind ks1001.find

/-! ## Syllables -/

/-- The syllable of three letters, counted among the letters of their place. The last may be
absent, which counts as zero. -/
def syllable (first middle last : Nat) : Char :=
  Char.ofNat (0xAC00 + first * 588 + middle * 28 + last)

/-- The place of a letter among those that stand first in a syllable, by its place in the set. -/
def firstLetters : List (Option Nat) := [
  some 0, some 1, none, some 2, none, none, some 3, some 4, some 5, none, none, none, none, none,
  none, none, some 6, some 7, some 8, none, some 9, some 10, some 11, some 12, some 13, some 14,
  some 15, some 16, some 17, some 18
]

/-- The place of a letter among those that stand last in a syllable, by its place in the set. -/
def lastLetters : List (Option Nat) := [
  some 1, some 2, some 3, some 4, some 5, some 6, some 7, none, some 8, some 9, some 10, some 11,
  some 12, some 13, some 14, some 15, some 16, some 17, none, some 18, some 19, some 20, some 21,
  some 22, none, some 23, some 24, some 25, some 26, some 27
]

/-- An entry of a list, by a byte and the byte of the first entry. -/
def entry (letters : List (Option Nat)) (least : Nat) (b : UInt8) : Option Nat :=
  if least ≤ b.toNat then (letters[b.toNat - least]?).join else none

/-- The byte before each letter of a spelled syllable. -/
def letterMark : UInt8 := 0xA4

/-- The byte that stands for no letter. -/
def filler : UInt8 := 0xD4

/-- A syllable that is spelled out, after its first two bytes. -/
def spelled : List UInt8 → Multibyte.Start
  | m₁ :: first :: m₂ :: middle :: m₃ :: last :: _ =>
    let middle? : Option Nat :=
      if 0xBF ≤ middle && middle ≤ 0xD3 then some (middle.toNat - 0xBF) else none
    let last? := if last == filler then some 0 else entry lastLetters 0xA1 last
    if m₁ == letterMark && m₂ == letterMark && m₃ == letterMark then
      match entry firstLetters 0xA1 first, middle?, last? with
      | some f, some m, some l => .chars [syllable f m l] 8
      | _, _, _ => .illegal 1
    else .illegal 1
  | _ => .incomplete

/-- The extended code for Unix. -/
def eucKr : Multibyte :=
  .plain "euc_kr" fun a rest =>
    if a < 0x80 then .single a
    else
      match rest with
      | b :: more =>
        if a == letterMark && b == filler then spelled more
        else Multibyte.double foundKs1001 a rest
      | [] => .incomplete

/-! ## The code page 949 -/

/-- The syllables that KS X 1001 lacks, in order. -/
def lacking : Array Char := unmarked (marks 0xD7A4 ks1001.cells.toList) 0xAC00 0xD7A3

/-- The column of a byte in rows that leave out what follows the letters of ASCII. -/
def lettersColumn (b : Nat) : Option Nat :=
  if 0x41 ≤ b && b ≤ 0x5A then some (b - 0x41)
  else if 0x61 ≤ b && b ≤ 0x7A then some (b - 0x61 + 26)
  else if 0x81 ≤ b && b ≤ 0xFE then some (b - 0x81 + 52)
  else none

/-- The syllable of two bytes around the set: first come whole rows, then the first eighty-four
cells of others. -/
def around (a b : Nat) : Option Char :=
  (lettersColumn b).bind fun column =>
    if 0x81 ≤ a && a ≤ 0xA0 then lacking[(a - 0x81) * 178 + column]?
    else if 0xA1 ≤ a && a ≤ 0xC6 && column < 84 then lacking[32 * 178 + (a - 0xA1) * 84 + column]?
    else none

/-- The code page 949. -/
def codePage949 : Multibyte :=
  .doubled "cp949" fun a b => (foundKs1001 a b).or ((around a b).map ([·]))

/-! ## Johab -/

/-- What five bits stand for: no letter, or one with its place in a syllable and its sign by
itself. -/
inductive Letter where
  | absent
  | present (place : Nat) (sign : Char)

/-- A letter by its five bits, with tables of the bits and of the signs in the order of places, the
first of which is `least`. -/
def letter? (bits : List Nat) (signs : List Char) (least n : Nat) : Option Letter :=
  match bits.idxOf? n with
  | none => none
  | some 0 => some .absent
  | some i => signs[i - 1]?.map (.present (least + i - 1))

/-- The signs of the letters that stand first. -/
def firstSigns : List Char := "ㄱㄲㄴㄷㄸㄹㅁㅂㅃㅅㅆㅇㅈㅉㅊㅋㅌㅍㅎ".toList

/-- The signs of the letters in the middle. -/
def middleSigns : List Char := "ㅏㅐㅑㅒㅓㅔㅕㅖㅗㅘㅙㅚㅛㅜㅝㅞㅟㅠㅡㅢㅣ".toList

/-- The signs of the letters that stand last. -/
def lastSigns : List Char := "ㄱㄲㄳㄴㄵㄶㄷㄹㄺㄻㄼㄽㄾㄿㅀㅁㅂㅄㅅㅆㅇㅈㅊㅋㅌㅍㅎ".toList

/-- The bits of the first letter, those for none first. -/
def firstBits : List Nat := (List.range 20).map (· + 1)

/-- The bits of the letter in the middle, those for none first. -/
def middleBits : List Nat :=
  [2, 3, 4, 5, 6, 7, 10, 11, 12, 13, 14, 15, 18, 19, 20, 21, 22, 23, 26, 27, 28, 29]

/-- The bits of the last letter, those for none first. -/
def lastBits : List Nat := ((List.range 30).drop 1).filter (· != 18)

/-- What three letters make: a syllable, or a single letter, or a wide space. -/
def composed : Letter → Letter → Letter → Option Char
  | .present f _, .present m _, .present l _ => some (syllable f m l)
  | .present f _, .present m _, .absent => some (syllable f m 0)
  | .present _ c, .absent, .absent => some c
  | .absent, .present _ c, .absent => some c
  | .absent, .absent, .present _ c => some c
  | .absent, .absent, .absent => some '\u3000'
  | _, _, _ => none

/-- The character of two bytes that hold three letters. -/
def composedOf (a b : Nat) : Option Char := do
  let f ← letter? firstBits firstSigns 0 (a / 4 % 32)
  let m ← letter? middleBits middleSigns 0 (a * 8 % 32 + b / 32)
  let l ← letter? lastBits lastSigns 1 (b % 32)
  composed f m l

/-- The cell of KS X 1001 that two bytes outside the syllables stand for. -/
def johabCell (a b : Nat) : Option (Nat × Nat) :=
  if a == 0xD8 || a == 0xDF || 0xF9 < a || b < 0x31 || (0x80 ≤ b && b < 0x91) || b % 128 == 0x7F ||
      (a == 0xDA && 0xA1 ≤ b && b ≤ 0xD3) then none
  else
    let row := if a < 0xE0 then 2 * (a - 0xD9) else 2 * a - 0x197
    let column := if b < 0x91 then b - 0x31 else b - 0x43
    some (if column < 94 then (row, column) else (row + 1, column - 94))

/-- What Johab has for two bytes. -/
def foundJohab (a b : Nat) : Option (List Char) :=
  if a < 0xD8 then (composedOf a b).map ([·])
  else (johabCell a b).bind ks1001.find

/-- Johab. -/
def johab : Multibyte := .doubled "johab" foundJohab

/-- The encodings of this module. -/
def all : List Multibyte := [eucKr, codePage949, johab]

end Korean

end MetesBounds.Text
