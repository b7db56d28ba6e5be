import MetesBounds.Text.Encoding.Bytewise
import MetesBounds.Text.Encoding.Grid.Gb2312
import MetesBounds.Text.Encoding.Grid.Ks1001
import MetesBounds.Text.Encoding.Japanese

/-!
# `Text/Encoding/Iso2022` — switching between sets by escape sequences

ISO 2022 keeps to seven bits. Escape sequences put a set of characters into one of three registers,
the last byte of a sequence naming the set. Bytes stand for characters of the first register, after
a shift for those of the second; one byte after a sequence of its own stands for a character of the
third. An escape that opens no such sequence is passed on as it stands, up to its last byte.
-/

set_option autoImplicit false

namespace MetesBounds.Text

open Grid

namespace Iso2022

/-- A set of characters with the byte that names it. -/
inductive Charset where
  /-- With one byte each; what a byte stands for in the first two registers, and in the third, where
  not every set has a use. -/
  | narrow (last : Char) (inTurn : UInt8 → Option Char) (single : Option (UInt8 → Option Char))
  /-- With two bytes each, for a cell of ninety-four rows of ninety-four cells. -/
  | wide (last : Char) (find : Nat × Nat → Option (List Char))

/-- The byte that names a set. -/
def Charset.last : Charset → Char
  | narrow last _ _ | wide last _ => last

/-- Whether the characters of a set have two bytes. -/
def Charset.isWide : Charset → Bool
  | narrow .. => false
  | wide .. => true

/-- What bytes begin with in a set, given the first and the others. -/
def Charset.start (set : Charset) (a : UInt8) (rest : List UInt8) : Multibyte.Start :=
  match set, rest with
  | narrow _ inTurn _, _ => ((inTurn a).map fun c => .chars [c] 1).getD (.illegal 1)
  | wide .., [] => .incomplete
  | wide _ find, b :: _ =>
    match (Multibyte.cell94 (a.toNat + 0x80) (b.toNat + 0x80)).bind find with
    | some cs => .chars cs 2
    | none => .illegal 2

/-- What a byte stands for in the third register, after the two bytes for that. -/
def Charset.startSingle (set : Charset) (b : UInt8) : Multibyte.Start :=
  match set with
  | narrow _ _ (some single) => ((single b).map fun c => .chars [c] 3).getD (.illegal 3)
  | _ => .noRule

/-! ## Sets -/

/-- A set for the third register only, from what it has for bytes with their highest bit changed. -/
def upper (last : Char) (charOf? : UInt8 → Option Char) : Charset :=
  .narrow last (fun _ => none) (some fun b => charOf? (b ^^^ 0x80))

/-- The Greek set as it was before its signs for money. -/
def greek (b : UInt8) : Option Char :=
  if [0xA4, 0xA5, 0xAA].contains b then none
  else (Page.ofName? "iso8859_7").bind fun p => Page.charOf? p.chars b

/-- ASCII. -/
def ascii : Charset := .narrow 'B' asciiChar? (some asciiChar?)

/-- The Latin letters of JIS X 0201, with a yen sign and an overline. -/
def yen : Charset := .narrow 'J' (some ∘ Japanese.latin) none

/-- The half-width syllables of JIS X 0201. -/
def syllables : Charset :=
  let syllable (b : UInt8) : Option Char :=
    if 0x21 ≤ b && b ≤ 0x5F then some (Multibyte.halfWidth (b.toNat + 0x80)) else none
  .narrow 'I' syllable none

/-- The upper half of Latin-1. -/
def western : Charset := upper 'A' fun b => if 0x80 ≤ b then some (charOfCode b) else none

/-- The upper half of the Greek set. -/
def greeks : Charset := upper 'F' greek

/-- JIS X 0208. -/
def kanji : Charset := .wide 'B' jis0208.find

/-- JIS X 0208 by its first name. -/
def earlierKanji : Charset := .wide '@' jis0208.find

/-- JIS X 0212. -/
def moreKanji : Charset := .wide 'D' jis0212.find

/-- GB 2312. -/
def hanzi : Charset := .wide 'A' gb2312.find

/-- KS X 1001. -/
def hangul : Charset := .wide 'C' ks1001.find

/-! ## Sequences -/

/-- An encoding: the sets that it has besides ASCII, whether bytes shift to the second register,
whether there is a third, and whether a set may be announced as revised. -/
structure Variant where
  name : String
  sets : List Charset
  shifts : Bool
  hasThird : Bool
  announces : Bool

/-- The sets in the registers, whether the second is in turn, and whether an escape sequence of
another kind is being passed on. -/
structure State where
  first : Charset
  second : Charset
  third : Charset
  isShifted : Bool
  passes : Bool

/-- At first ASCII is in all registers. -/
def State.start : State := ⟨ascii, ascii, ascii, false, false⟩

/-- Whether a byte may end an escape sequence. -/
def isLast (b : UInt8) : Bool := 0x40 ≤ b && b ≤ 0x5A

/-- Whether a byte after an escape opens a sequence that names a set. -/
def opens (b : UInt8) : Bool := [0x28, 0x29, 0x24, 0x2E, 0x26].contains b

/-- Where a sequence ends. -/
inductive Ending where
  | after (size : Nat)
  | missing
  | tooFar

/-- Where a sequence ends of which `size` bytes are read. It has no more than sixteen; the two bytes
that announce a revised set hide the one after them. -/
def ending (announces : Bool) (size : Nat) (bytes : List UInt8) : Ending :=
  if 16 ≤ size then .tooFar
  else
    match bytes with
    | [] => .missing
    | b :: rest =>
      if isLast b then .after (size + 1)
      else if announces && b == 0x26 && rest.head? == some 0x40 then
        ending announces (size + 3) (rest.drop 2)
      else ending announces (size + 1) rest
termination_by bytes.length
decreasing_by all_goals simp only [List.length_cons, List.length_drop]; omega

/-- The set that a byte names. -/
def Variant.set? (v : Variant) (isWide : Bool) (last : UInt8) : Option Charset :=
  (ascii :: v.sets).find? fun s => s.isWide == isWide && s.last == Char.ofNat last.toNat

/-- The state after a sequence, given without its escape. -/
def Variant.designate? (v : Variant) (s : State) : List UInt8 → Option State
  | [0x24, b] | [0x24, 0x28, b] => (v.set? true b).map fun set => { s with first := set }
  | [0x24, 0x29, b] => (v.set? true b).map fun set => { s with second := set }
  | [0x28, b] => (v.set? false b).map fun set => { s with first := set }
  | [0x29, b] => (v.set? false b).map fun set => { s with second := set }
  | [0x2E, b] =>
    if v.hasThird then (v.set? false b).map fun set => { s with third := set } else none
  | [_, _, 0x1B, 0x24, 0x42] => if v.announces then some { s with first := kanji } else none
  | _ => none

/-- What a sequence that names a set does, given without its escape. -/
def Variant.designation (v : Variant) (s : State) (bytes : List UInt8) : State × Multibyte.Start :=
  match ending v.announces 1 bytes with
  | .missing => (s, .incomplete)
  | .tooFar => (s, .illegal 1)
  | .after size =>
    match v.designate? s (bytes.take (size - 1)) with
    | some s => (s, .chars [] size)
    | none => (s, .illegal size)

/-- What an escape begins, given the bytes after it. -/
def Variant.escape (v : Variant) (s : State) (bytes : List UInt8) : State × Multibyte.Start :=
  match bytes with
  | [] => (s, .incomplete)
  | b :: rest =>
    if opens b then v.designation s bytes
    else if v.hasThird && b == 0x4E then
      match rest with
      | [] => (s, .incomplete)
      | c :: _ => (s, s.third.startSingle c)
    else ({ s with passes := true }, .single 0x1B)

/-- What bytes begin with. The end of a line ends a shift. -/
def Variant.step (v : Variant) (s : State) (b : UInt8) (rest : List UInt8) :
    State × Multibyte.Start :=
  if s.passes then ({ s with passes := !isLast b }, .single b)
  else if b == 0x1B then v.escape s rest
  else if v.shifts && (b == 0x0E || b == 0x0F) then
    ({ s with isShifted := b == 0x0E }, .chars [] 1)
  else if b == 0x0A then ({ s with isShifted := false }, .single b)
  else if b < 0x20 then (s, .single b)
  else if 0x80 ≤ b then (s, .illegal 1)
  else (s, (if s.isShifted then s.second else s.first).start b rest)

/-- An encoding with its steps. -/
def Variant.encoding (v : Variant) : Multibyte := .switching v.name State.start v.step

/-- A Japanese variant, which does not shift. -/
def japanese (name : String) (sets : List Charset) : Multibyte :=
  Variant.encoding ⟨name, kanji :: sets, false, false, true⟩

/-- The two planes of JIS X 0213, the first in its form of 2000 or of 2004. -/
def planes (of2000 : Bool) : List Charset :=
  [.wide (if of2000 then 'O' else 'Q') (Japanese.firstPlane of2000),
    .wide 'P' (Japanese.secondPlane false)]

/-- The encodings of this module. -/
def all : List Multibyte := [
  japanese "iso2022_jp" [yen, earlierKanji],
  japanese "iso2022_jp_1" [yen, earlierKanji, moreKanji],
  Variant.encoding ⟨"iso2022_jp_2",
    [kanji, yen, earlierKanji, moreKanji, hangul, hanzi, western, greeks], false, true, true⟩,
  japanese "iso2022_jp_2004" (planes false),
  japanese "iso2022_jp_3" (planes true),
  japanese "iso2022_jp_ext" [yen, earlierKanji, moreKanji, syllables],
  Variant.encoding ⟨"iso2022_kr", [hangul], true, false, false⟩
]

end Iso2022

end MetesBounds.Text
