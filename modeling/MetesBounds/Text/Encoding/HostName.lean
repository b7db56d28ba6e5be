import MetesBounds.Text.Encoding.HostName.Direction
import MetesBounds.Text.Encoding.HostName.Folding
import MetesBounds.Text.Encoding.HostName.Mark
import MetesBounds.Text.Encoding.Punycode

/-!
# `Text/Encoding/HostName` — names of hosts

The name of a host consists of labels with points between them. A label that begins with a mark of
its own is written in the letters of ASCII; it is accepted if the text that it stands for would be
written in the same way. Before it is written, a text is prepared: what is invisible is left out,
characters are replaced by those that they count as, and marks are put together with their letters.
-/

set_option autoImplicit false

namespace MetesBounds.Text

namespace HostName

/-- What a label begins with that is written in the letters of ASCII. -/
def mark : List Char := ['x', 'n', '-', '-']

/-- A label, if it is neither empty nor longer than any may be. -/
def sized (label : List Char) : Except LabelFault (List Char) :=
  if 0 < label.length && label.length < 64 then .ok label else .error .size

/-! ## Preparing -/

/-- Characters that labels are written without. -/
def ignored : CodeRanges := [
  (0xAD, 0xAD), (0x34F, 0x34F), (0x1806, 0x1806), (0x180B, 0x180D), (0x200B, 0x200D),
  (0x2060, 0x2060), (0xFE00, 0xFE0F), (0xFEFF, 0xFEFF)
]

/-- What no label has: wide and invisible blanks, controls, signs for the direction and the
composition of text, halves of characters, and what is not or not publicly assigned. -/
def prohibited : CodeRanges := [
  (0x80, 0xA0), (0x340, 0x341), (0x6DD, 0x6DD), (0x70F, 0x70F), (0x1680, 0x1680), (0x180E, 0x180E),
  (0x2000, 0x200F), (0x2028, 0x202F), (0x205F, 0x2063), (0x206A, 0x206F), (0x2FF0, 0x2FFB),
  (0x3000, 0x3000), (0xD800, 0xF8FF), (0xFDD0, 0xFDEF), (0xFEFF, 0xFEFF), (0xFFF9, 0xFFFF),
  (0x1D173, 0x1D17A), (0x1FFFE, 0x1FFFF), (0x2FFFE, 0x2FFFF), (0x3FFFE, 0x3FFFF),
  (0x4FFFE, 0x4FFFF), (0x5FFFE, 0x5FFFF), (0x6FFFE, 0x6FFFF), (0x7FFFE, 0x7FFFF),
  (0x8FFFE, 0x8FFFF), (0x9FFFE, 0x9FFFF), (0xAFFFE, 0xAFFFF), (0xBFFFE, 0xBFFFF),
  (0xCFFFE, 0xCFFFF), (0xDFFFE, 0xDFFFF), (0xE0001, 0xE0001), (0xE0020, 0xE007F),
  (0xEFFFE, 0x10FFFF)
]

/-- A text as labels are compared. -/
def normal (ns : List Nat) : List Nat :=
  composed (ordered ((ns.filter fun n => !ignored.includes n).flatMap folded))

/-- A prepared text, if no two directions meet in it. -/
def directed (ns : List Nat) : Except LabelFault (List Nat) :=
  let isLeftward (n : Option Nat) : Bool := n.any leftward.includes
  if !ns.any leftward.includes then .ok ns
  else if ns.any rightward.includes then .error .bothDirections
  else if isLeftward ns.head? && isLeftward ns.getLast? then .ok ns
  else .error .directionAtEnds

/-- A text as it is written in a label. -/
def prepared (ns : List Nat) : Except LabelFault (List Nat) :=
  let ns := normal ns
  match ns.find? prohibited.includes with
  | some n => .error (.prohibited (quoted (String.ofList (heldAs n))))
  | none => directed ns

/-! ## Labels -/

/-- A row of codes in ASCII, as characters. -/
def ascii? (ns : List Nat) : Option (List Char) :=
  if ns.all (· < 0x80) then some (ns.map Char.ofNat) else none

/-- The label of a text. -/
def encode (ns : List Nat) : Except LabelFault (List Char) :=
  match ascii? ns with
  | some label => sized label
  | none => do
    let ns ← prepared ns
    match ascii? ns with
    | some label => sized label
    | none =>
      if (mark.map Char.toNat).isPrefixOf ns then .error .isEncoded
      else sized (mark ++ Punycode.encode ns)

/-- The text of a label. -/
def decode (label : List Char) : Except LabelFault (List Nat) :=
  match after? mark label with
  | none => .ok (label.map Char.toNat)
  | some written => do
    let ns ← (Punycode.decode written).mapError .written
    let own ← encode ns
    if label.map Char.toLower == own then .ok ns
    else .error (.otherwise (String.ofList label) (String.ofList own))

/-- The codes of bytes. -/
def read (bytes : List UInt8) : Except Error (List Nat) := do
  let labels ← ((cut ['.'] (← readAscii bytes)).mapM decode).mapError .badLabel
  .ok (['.'.toNat].intercalate labels)

end HostName

end MetesBounds.Text
