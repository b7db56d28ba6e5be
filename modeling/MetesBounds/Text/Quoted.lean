import MetesBounds.Text.Printable
import MetesBounds.Text.Surrogate

/-!
# `Text/Quoted` — a text in quotation marks, every character visible

Messages show texts quoted, so that blanks and invisible characters can be seen. The quotation
mark is an apostrophe, unless the text holds an apostrophe and no double quote. Inside, the mark
and the backslash are escaped, the three common controls have short escapes, and any other
character that is not printable is written by its code in two, four or eight hexadecimal digits.
-/

set_option autoImplicit false

namespace MetesBounds.Text.Quoted

/-- The mark that a text is quoted with. -/
def mark (cs : List Char) : Char :=
  if cs.contains '\x27' && !cs.contains '\x22' then '\x22' else '\x27'

/-- A number in hexadecimal, filled with zeros to a width. -/
def hex (width n : Nat) : List Char :=
  let digits := Nat.toDigits 16 n
  List.replicate (width - digits.length) '0' ++ digits

/-- A code inside quotation marks. -/
def numbered (n : Nat) : List Char :=
  if n < 0x100 then '\x5c' :: 'x' :: hex 2 n
  else if n < 0x10000 then '\x5c' :: 'u' :: hex 4 n
  else '\x5c' :: 'U' :: hex 8 n

/-- One character inside quotation marks `q`. -/
def escape (q c : Char) : List Char :=
  if c == q || c == '\x5c' then ['\x5c', c]
  else if c == '\n' then ['\x5c', 'n']
  else if c == '\r' then ['\x5c', 'r']
  else if c == '\t' then ['\x5c', 't']
  else if isPrintable c then [c]
  else numbered c.toNat

/-- What stands inside quotation marks `q` for a character or half. -/
def escapeCode (q : Char) (n : Nat) : List Char :=
  if isSurrogate n then numbered n else escape q (Char.ofNat n)

/-- A text in quotation marks. -/
def encode (cs : List Char) : List Char :=
  let q := mark cs
  q :: (codesOf cs).flatMap (escapeCode q) ++ [q]

end Quoted

/-- A text in quotation marks. -/
def quoted (s : String) : String := String.ofList (Quoted.encode s.toList)

end MetesBounds.Text
