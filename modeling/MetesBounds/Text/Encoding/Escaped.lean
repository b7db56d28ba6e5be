import MetesBounds.Text.CharName
import MetesBounds.Text.Encoding.Units

/-!
# `Text/Encoding/Escaped` — bytes with escapes in them

A byte stands for the character with that code, and a backslash opens an escape: a short one for a
control character, a number to the base 8, a number of two, four or eight digits to the base 16, or
the name of a character. Of an escape that does not exist, all stands for itself. In the raw form
only the numbers of four and eight digits are escapes.
-/

set_option autoImplicit false

namespace MetesBounds.Text

namespace Escaped

/-- What a backslash begins: codes and the number of bytes after the backslash, or a number of
bytes, with the backslash, that make no character. -/
inductive Escape where
  | codes (ns : List Nat) (size : Nat)
  | bad (size : Nat) (reason : String)

/-- The value of a digit to the base 16. -/
def digit? (b : UInt8) : Option Nat :=
  let n := b.toNat
  if 0x30 ≤ n && n ≤ 0x39 then some (n - 0x30)
  else if 0x61 ≤ n && n ≤ 0x66 then some (n - 0x61 + 10)
  else if 0x41 ≤ n && n ≤ 0x46 then some (n - 0x41 + 10)
  else none

/-- The value of digits. -/
def value (base : Nat) (digits : List Nat) : Nat := digits.foldl (fun n d => n * base + d) 0

/-- A number of so many digits, after the letter that says how many. -/
def numbered (width : Nat) (truncated tooLarge : String) (bytes : List UInt8) : Escape :=
  let digits := ((bytes.take width).takeWhile fun b => (digit? b).isSome).filterMap digit?
  let n := value 16 digits
  if digits.length < width then .bad (2 + digits.length) truncated
  else if 0x110000 ≤ n then .bad (2 + width) tooLarge
  else .codes [n] (1 + width)

/-- What is wrong with a number of too few digits, by its letter. -/
def truncated (letter : Char) (width : Nat) : String :=
  "truncated \\" ++ String.ofList (letter :: List.replicate width 'X') ++ " escape"

/-- A number of one to three digits to the base 8. -/
def octal (bytes : List UInt8) : Escape :=
  let digits := (bytes.take 3).takeWhile fun b => 0x30 ≤ b && b ≤ 0x37
  .codes [value 8 (digits.map fun b => b.toNat - 0x30)] digits.length

/-- The escapes of one letter or sign. The end of a line after a backslash is left out. -/
def short? (b : UInt8) : Option (List Char) :=
  match Char.ofNat b.toNat with
  | '\n' => some []
  | '\x5c' => some ['\x5c']
  | '\x27' => some ['\x27']
  | '\x22' => some ['\x22']
  | 'b' => some ['\x08']
  | 'f' => some ['\x0c']
  | 't' => some ['\t']
  | 'n' => some ['\n']
  | 'r' => some ['\r']
  | 'v' => some ['\x0b']
  | 'a' => some ['\x07']
  | _ => none

/-- A character by its name in braces, after the letter for it. -/
def named (bytes : List UInt8) : Escape :=
  let malformed := "malformed \\N character escape"
  match bytes with
  | 0x7B :: rest =>
    let name := rest.takeWhile fun b => b != 0x7D
    let size := name.length
    if rest.length ≤ size then .bad (3 + size) malformed
    else if size = 0 then .bad 3 malformed
    else
      match CharName.code? (name.map fun b => Char.ofNat b.toNat) with
      | some n => .codes [n] (3 + size)
      | none => .bad (4 + size) "unknown Unicode character name"
  | _ => .bad 2 malformed

/-- What a backslash stands for with a byte that is no escape. -/
def itself (b : UInt8) : Escape := .codes [0x5C, b.toNat] 1

/-- What a backslash begins, given the bytes after it. -/
def escape : List UInt8 → Escape
  | [] => .bad 1 "\\ at end of string"
  | b :: rest =>
    if b == 0x78 then numbered 2 (truncated 'x' 2) "" rest
    else if b == 0x75 then numbered 4 (truncated 'u' 4) "" rest
    else if b == 0x55 then numbered 8 (truncated 'U' 8) "illegal Unicode character" rest
    else if b == 0x4E then named rest
    else if 0x30 ≤ b && b ≤ 0x37 then octal (b :: rest)
    else ((short? b).map fun cs => .codes (cs.map Char.toNat) 1).getD (itself b)

/-- What a backslash begins in the raw form, given the bytes after it. -/
def rawEscape : List UInt8 → Escape
  | [] => .codes [0x5C] 0
  | b :: rest =>
    if b == 0x75 then numbered 4 (truncated 'u' 4) "" rest
    else if b == 0x55 then numbered 8 (truncated 'U' 8) "\\Uxxxxxxxx out of range" rest
    else itself b

/-- The codes of bytes, after `position` bytes that stand for `done`, last first. -/
def readFrom (name : String) (escape : List UInt8 → Escape) (position : Nat) (done : List Nat)
    (bytes : List UInt8) : Except Error (List Nat) :=
  match bytes with
  | [] => .ok done.reverse
  | b :: rest =>
    if b == 0x5C then
      match escape rest with
      | .codes ns size =>
        readFrom name escape (position + size + 1) (ns.reverse ++ done) (rest.drop size)
      | .bad size reason => .error (.undecodable name (placeOf b position size) reason)
    else readFrom name escape (position + 1) (b.toNat :: done) rest
termination_by bytes.length
decreasing_by all_goals simp only [List.length_cons, List.length_drop]; omega

/-- The codes of bytes. -/
def read (bytes : List UInt8) : Except Error (List Nat) :=
  readFrom "unicodeescape" escape 0 [] bytes

/-- The codes of bytes in the raw form. -/
def readRaw (bytes : List UInt8) : Except Error (List Nat) :=
  readFrom "rawunicodeescape" rawEscape 0 [] bytes

end Escaped

end MetesBounds.Text
