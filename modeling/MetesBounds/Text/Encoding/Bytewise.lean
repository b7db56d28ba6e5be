import MetesBounds.Text.Encoding.Page
import MetesBounds.Text.Encoding.Units

/-!
# `Text/Encoding/Bytewise` — one byte for each character

In ASCII the bytes below 128 are the codes of their characters, in Latin-1 all bytes are, and a code
page has a list of characters, in which some bytes may be missing. A byte that stands for nothing is
refused.
-/

set_option autoImplicit false

namespace MetesBounds.Text

/-- The characters of bytes of which each stands for a character of its own, or for none. -/
def byByte (encoding reason : String) (charOf? : UInt8 → Option Char) (position : Nat) :
    List UInt8 → Except Error (List Char)
  | [] => .ok []
  | b :: rest =>
    match charOf? b with
    | some c => (byByte encoding reason charOf? (position + 1) rest).map (c :: ·)
    | none => .error (.undecodable encoding (placeOf b position 1) reason)

/-- The character with a byte as its code. -/
def charOfCode (b : UInt8) : Char := Char.ofNat b.toNat

/-- The character with a byte of seven bits as its code. -/
def asciiChar? (b : UInt8) : Option Char := if b < 128 then some (charOfCode b) else none

/-- The characters of bytes in ASCII. -/
def readAscii (bytes : List UInt8) : Except Error (List Char) :=
  byByte "ascii" "ordinal not in range(128)" asciiChar? 0 bytes

/-- The character that a byte stands for in a page. -/
def Page.charOf? (chars : Array Char) (b : UInt8) : Option Char :=
  chars[b.toNat]?.filter (· != gap)

/-- The characters of bytes in a page. -/
def Page.read (p : Page) (bytes : List UInt8) : Except Error (List Char) :=
  byByte "charmap" "character maps to <undefined>" (charOf? p.chars) 0 bytes

end MetesBounds.Text
