import MetesBounds.Text.Encoding.Bytewise

/-!
# `Text/Encoding/Punycode` — any text in the letters, digits and the hyphen of ASCII

The characters of ASCII come first, then a hyphen, then numbers that say where the other characters
go, in the order of their codes: each number counts the places of all codes passed over since the
last insertion. A number is written to the base 36, its lowest digit first, and a digit below a
threshold ends it; the thresholds follow the sizes of the numbers so far.
-/

set_option autoImplicit false

namespace MetesBounds.Text

namespace Punycode

/-- The least digit that does not end a number, by the place of the digit. -/
def threshold (bias place : Nat) : Nat := max 1 (min 26 (36 * (place + 1) - bias))

theorem threshold_pos (bias place : Nat) : 1 ≤ threshold bias place := by
  unfold threshold; omega

theorem threshold_le (bias place : Nat) : threshold bias place ≤ 26 := by
  unfold threshold; omega

/-- How often a number is divided by 35 until it is at most 455, and what is left of it. -/
def scaled (n : Nat) : Nat × Nat :=
  if 455 < n then
    let (times, left) := scaled (n / 35)
    (times + 1, left)
  else (0, n)
termination_by n
decreasing_by omega

/-- The bias after a number that put in the character that made the text `size` long. -/
def adapted (n size : Nat) (isFirst : Bool) : Nat :=
  let n := if isFirst then n / 700 else n / 2
  let (times, left) := scaled (n + n / size)
  36 * times + 36 * left / (left + 38)

/-! ## Reading -/

/-- The value of a digit. -/
def digit? (c : Char) : Option Nat :=
  if 'A' ≤ c && c ≤ 'Z' then some (c.toNat - 0x41)
  else if '0' ≤ c && c ≤ '9' then some (c.toNat - 0x30 + 26)
  else none

/-- The number that the digits from a place on add up to, and how many digits it has. -/
def number (bias place weight : Nat) : List Char → Except LabelFault (Nat × Nat)
  | [] => .error .unfinished
  | c :: rest =>
    match digit? c with
    | none => .error (.notADigit c)
    | some d =>
      let t := threshold bias place
      if d < t then .ok (d * weight, 1)
      else do
        let (n, size) ← number bias (place + 1) (weight * (36 - t)) rest
        .ok (d * weight + n, size + 1)

/-- Puts codes into a text by the numbers that digits make. The search for a place goes on from
`next`, for the code. -/
def insertFrom (text : List Nat) (code next bias : Nat) (isFirst : Bool) (digits : List Char) :
    Except LabelFault (List Nat) :=
  match digits with
  | [] => .ok text
  | c :: rest => do
    let (n, size) ← number bias 0 1 (c :: rest)
    let places := text.length + 1
    let code := code + (next + n) / places
    let place := (next + n) % places
    if 0x110000 ≤ code then .error (.noCharacter code)
    else
      insertFrom (text.take place ++ code :: text.drop place) code (place + 1)
        (adapted n places isFirst) false (rest.drop (size - 1))
termination_by digits.length
decreasing_by simp only [List.length_cons, List.length_drop]; omega

/-- The text of characters of ASCII and digits. -/
def ofParts (letters digits : List Char) : Except LabelFault (List Nat) :=
  insertFrom (letters.map Char.toNat) 0x80 0 72 true (digits.map Char.toUpper)

/-- A row in front of its last hyphen, and after it. -/
def parted {α : Type} [BEq α] (hyphen : α) (row : List α) : List α × List α :=
  let last := (row.reverse.takeWhile (· != hyphen)).reverse
  (row.take (row.length - last.length - 1), last)

/-- The text of a row of characters of ASCII. -/
def decode (cs : List Char) : Except LabelFault (List Nat) :=
  let (letters, digits) := parted '-' cs
  ofParts letters digits

/-- The codes of bytes. -/
def read (bytes : List UInt8) : Except Error (List Nat) := do
  let (letters, digits) := parted 0x2D bytes
  (ofParts (← readAscii letters) (← readAscii digits)).mapError .badLabel

/-! ## Writing -/

/-- A digit. -/
def digit (n : Nat) : Char := Char.ofNat (if n < 26 then 0x61 + n else 0x30 + n - 26)

/-- The digits of a number from a place on. -/
def digits (bias place n : Nat) : List Char :=
  let t := threshold bias place
  if n < t then [digit n]
  else digit (t + (n - t) % (36 - t)) :: digits bias (place + 1) ((n - t) / (36 - t))
termination_by n
decreasing_by
  have h₁ := threshold_pos bias place
  have h₂ := threshold_le bias place
  have h₃ := Nat.div_le_self (n - threshold bias place) (36 - threshold bias place)
  omega

/-- What is written so far, the places passed over since the last insertion, the bias, and the
number of characters in the text. -/
structure Progress where
  written : List Char
  passed : Nat
  bias : Nat
  size : Nat

/-- Passes over a code of the text while those that equal another are put in. -/
def Progress.pass (letters code : Nat) (p : Progress) (n : Nat) : Progress :=
  if n < code then { p with passed := p.passed + 1 }
  else if n = code then
    ⟨p.written ++ digits p.bias 0 p.passed, 0,
      adapted p.passed (p.size + 1) (p.size == letters), p.size + 1⟩
  else p

/-- Puts in what has each of the codes, the last code before them being given. -/
def Progress.putAll (letters : Nat) (ns : List Nat) : Progress → Nat → List Nat → Progress
  | p, _, [] => p
  | p, last, code :: codes =>
    let p := { p with passed := p.passed + (code - last) * (p.size + 1) }
    let p := ns.foldl (pass letters code) p
    putAll letters ns { p with passed := p.passed + 1 } (code + 1) codes

/-- A row of codes in the letters of ASCII. -/
def encode (ns : List Nat) : List Char :=
  let letters := (ns.filter (· < 0x80)).map Char.ofNat
  let others := (ns.filter (0x80 ≤ ·)).eraseDups.mergeSort
  let numbers := Progress.putAll letters.length ns ⟨[], 0, 72, letters.length⟩ 0x80 others
  letters ++ (if letters.isEmpty then [] else ['-']) ++ numbers.written

end Punycode

end MetesBounds.Text
