import MetesBounds.Text.Encoding.Units

/-!
# `Text/Encoding/Utf8` — UTF-8

A character takes one to four bytes, of which the first tells how many. Only the shortest form of
each scalar value is accepted; a refusal says where the first bad bytes lie, how many belong
together, and what is wrong with them. Names of files are read without a refusal: a byte that is no
character stands for a half of its own.
-/

set_option autoImplicit false

namespace MetesBounds.Text

namespace Utf8

/-! ## Reading -/

/-- What the bytes from some place on begin with: a character and the number of bytes after its
first, or a number of bytes that are no character. -/
inductive Lead where
  | char (c : Char) (more : Nat)
  | bad (size : Nat) (reason : String)

/-- Takes in `owed` more bytes of a character, the next of which lies between `low` and `high`;
`taken` bytes are already in. -/
def continued (value taken low high : Nat) : (owed : Nat) → List UInt8 → Lead
  | 0, _ => .char (Char.ofNat value) (taken - 1)
  | _ + 1, [] => .bad taken "unexpected end of data"
  | owed + 1, b :: rest =>
    if low ≤ b.toNat && b.toNat ≤ high then
      continued (value * 64 + b.toNat % 64) (taken + 1) 0x80 0xBF owed rest
    else .bad taken "invalid continuation byte"

/-- What bytes in UTF-8 begin with, given the first and the others. -/
def leadOf (first : UInt8) (rest : List UInt8) : Lead :=
  let n := first.toNat
  if n < 0x80 then .char (Char.ofNat n) 0
  else if n < 0xC2 then .bad 1 "invalid start byte"
  else if n < 0xE0 then continued (n - 0xC0) 1 0x80 0xBF 1 rest
  else if n < 0xF0 then
    continued (n - 0xE0) 1 (if n = 0xE0 then 0xA0 else 0x80) (if n = 0xED then 0x9F else 0xBF) 2
      rest
  else if n < 0xF5 then
    continued (n - 0xF0) 1 (if n = 0xF0 then 0x90 else 0x80) (if n = 0xF4 then 0x8F else 0xBF) 3
      rest
  else .bad 1 "invalid start byte"

/-- The characters of bytes in UTF-8, after `position` bytes that stand for `done`, last first. -/
def readFrom (position : Nat) (done : List Char) (bytes : List UInt8) :
    Except Error (List Char) :=
  match bytes with
  | [] => .ok done.reverse
  | first :: rest =>
    match leadOf first rest with
    | .char c more => readFrom (position + more + 1) (c :: done) (rest.drop more)
    | .bad size reason => .error (.undecodable "utf-8" (placeOf first position size) reason)
termination_by bytes.length
decreasing_by simp only [List.length_cons, List.length_drop]; omega

/-- The byte order mark. -/
def byteOrderMark : List UInt8 := [0xEF, 0xBB, 0xBF]

/-- Bytes without a byte order mark at the front. Less than a whole mark is no text yet. -/
def dropMark (bytes : List UInt8) : List UInt8 :=
  if bytes.take 3 = byteOrderMark then bytes.drop 3
  else if bytes.length < 3 && byteOrderMark.take bytes.length == bytes then []
  else bytes

/-- The characters of bytes. -/
def read (bytes : List UInt8) : Except Error (List Char) := readFrom 0 [] bytes

/-! ## Names of files -/

/-- The half that stands for a byte. -/
def halfOfByte (b : UInt8) : Nat := 0xDC00 + b.toNat

/-- The byte that a half stands for. -/
def byteOfHalf? (n : Nat) : Option UInt8 :=
  if 0xDC80 ≤ n && n ≤ 0xDCFF then some (UInt8.ofNat (n - 0xDC00)) else none

/-- The bytes of a code. -/
def bytesOf (n : Nat) : List UInt8 :=
  match byteOfHalf? n with
  | some b => [b]
  | none => (String.singleton (Char.ofNat n)).toUTF8.toList

/-- The bytes of the name of a file. -/
def nameBytes (name : String) : List UInt8 := (codes name).flatMap bytesOf

/-- The codes of the bytes of a name. -/
def nameCodes (bytes : List UInt8) : List Nat :=
  match bytes with
  | [] => []
  | first :: rest =>
    match leadOf first rest with
    | .char c more => c.toNat :: nameCodes (rest.drop more)
    | .bad .. => halfOfByte first :: nameCodes rest
termination_by bytes.length
decreasing_by all_goals simp only [List.length_cons, List.length_drop]; omega

/-- The name of the file that a name leads to: halves that stand for the bytes of a character are
that character. -/
def fileName (name : String) : String :=
  String.ofList (ofCodes (nameCodes (nameBytes name)))

end Utf8

end MetesBounds.Text
