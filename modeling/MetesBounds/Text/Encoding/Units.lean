import MetesBounds.Error
import MetesBounds.Text.Surrogate

/-!
# `Text/Encoding/Units` — UTF-16 and UTF-32

Characters come as units of two or four bytes, the first byte of a unit being its highest or its
lowest. In UTF-16 a character beyond the first 65536 takes two units, surrogates of each other.
What is no text is refused, with the place where the first bad bytes lie.
-/

set_option autoImplicit false

namespace MetesBounds.Text

/-- Which byte of a unit comes first. -/
inductive ByteOrder where
  | lowFirst | highFirst
  deriving DecidableEq

/-- The ending by which an encoding of a byte order is known. -/
def ByteOrder.suffix : ByteOrder → String
  | lowFirst => "le"
  | highFirst => "be"

/-- Where bad bytes lie, given the first of them. -/
def placeOf (first : UInt8) (position size : Nat) : String :=
  if size = 1 then
    "byte 0x" ++ String.ofList (Quoted.hex 2 first.toNat) ++ " in position " ++ toString position
  else "bytes in position " ++ toString position ++ "-" ++ toString (position + size - 1)

/-- The number that the bytes of a unit make. -/
def unitValue (order : ByteOrder) (bytes : List UInt8) : Nat :=
  let highFirst := match order with
    | .highFirst => bytes
    | .lowFirst => bytes.reverse
  highFirst.foldl (fun n b => n * 256 + b.toNat) 0

/-- The characters of bytes in UTF-16 from some position on. -/
def utf16From (order : ByteOrder) (position : Nat) : List UInt8 → Except Error (List Char)
  | [] => .ok []
  | [a] => bad a 1 "truncated data"
  | a :: b :: rest =>
    let n := unitValue order [a, b]
    if isHighSurrogate n then
      match rest with
      | c :: d :: rest =>
        let m := unitValue order [c, d]
        if isLowSurrogate m then
          (utf16From order (position + 4) rest).map (Char.ofNat (joinedSurrogates n m) :: ·)
        else bad a 2 "illegal UTF-16 surrogate"
      | rest => bad a (rest.length + 2) "unexpected end of data"
    else if isLowSurrogate n then bad a 2 "illegal encoding"
    else (utf16From order (position + 2) rest).map (Char.ofNat n :: ·)
where
  /-- The error of bad bytes at the position. -/
  bad (first : UInt8) (size : Nat) (reason : String) : Except Error (List Char) :=
    .error (.undecodable ("utf-16-" ++ order.suffix) (placeOf first position size) reason)

/-- The characters of bytes in UTF-32 from some position on. -/
def utf32From (order : ByteOrder) (position : Nat) : List UInt8 → Except Error (List Char)
  | [] => .ok []
  | a :: b :: c :: d :: rest =>
    let n := unitValue order [a, b, c, d]
    if isSurrogate n then
      bad a 4 "code point in surrogate code point range(0xd800, 0xe000)"
    else if 0x110000 ≤ n then bad a 4 "code point not in range(0x110000)"
    else (utf32From order (position + 4) rest).map (Char.ofNat n :: ·)
  | a :: rest => bad a (rest.length + 1) "truncated data"
where
  /-- The error of bad bytes at the position. -/
  bad (first : UInt8) (size : Nat) (reason : String) : Except Error (List Char) :=
    .error (.undecodable ("utf-32-" ++ order.suffix) (placeOf first position size) reason)

/-- The characters of bytes whose order is told by a mark in front of them. Without a mark they are
read with the lower bytes first, and refused if there is any. -/
def markedUnits (size : Nat) (read : ByteOrder → Nat → List UInt8 → Except Error (List Char))
    (name : String) (bytes : List UInt8) : Except Error (List Char) :=
  if bytes.length < size then read .lowFirst 0 bytes
  else
    let mark := bytes.take size
    if unitValue .lowFirst mark = 0xFEFF then read .lowFirst size (bytes.drop size)
    else if unitValue .highFirst mark = 0xFEFF then read .highFirst size (bytes.drop size)
    else do
      let _ ← read .lowFirst 0 bytes
      .error (.noByteOrderMark name)

end MetesBounds.Text
