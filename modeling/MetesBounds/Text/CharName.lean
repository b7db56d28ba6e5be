import MetesBounds.Text.CharName.Alias
import MetesBounds.Text.CharName.Ancient
import MetesBounds.Text.CharName.Carved
import MetesBounds.Text.CharName.Component
import MetesBounds.Text.CharName.Eastern
import MetesBounds.Text.CharName.Form
import MetesBounds.Text.CharName.Indic
import MetesBounds.Text.CharName.Picture
import MetesBounds.Text.CharName.Sign
import MetesBounds.Text.CharName.Southern
import MetesBounds.Text.CharName.Syllabic
import MetesBounds.Text.CharName.Symbol
import MetesBounds.Text.CharName.Western
import MetesBounds.Text.CodeRanges
/-!
# `Text/CharName` — characters by their names

Every character has a name in capital letters, digits, hyphens and blanks, and some have second
names. `CharName.code?` finds the code of a name. The case of letters makes no difference, but for
two families: ideographs are named by their codes, and syllables of Hangul by their letters.
-/

set_option autoImplicit false

namespace MetesBounds.Text.CharName

/-! ## Named one by one -/

/-- All names that are written down. -/
def blocks : List Block :=
  western ++ southern ++ syllabic ++ sign ++ eastern ++ form ++ ancient ++ indic ++ carved ++
    component ++ symbols ++ picture ++ aliases

/-- The code of a name that is written down. -/
def listed? (name : List Char) : Option Nat :=
  blocks.findSome? (codeIn? ((cut [' '] name).map written))

/-! ## Named by code -/

/-- The value of a digit to the base 16, which is no small letter. -/
def hexDigit? (c : Char) : Option Nat :=
  if '0' ≤ c && c ≤ '9' then some (c.toNat - '0'.toNat)
  else if 'A' ≤ c && c ≤ 'F' then some (c.toNat - 'A'.toNat + 10)
  else none

/-- The number that digits to the base 16 make. -/
def hexNumber? (cs : List Char) : Option Nat :=
  cs.foldlM (fun n c => (hexDigit? c).map (16 * n + ·)) 0

/-- Characters that have their codes in their names. -/
def numbered : List (String × CodeRanges) := [
  ("CJK COMPATIBILITY IDEOGRAPH-", [(0xF900, 0xFA6D), (0xFA70, 0xFAD9), (0x2F800, 0x2FA1D)]),
  ("KHITAN SMALL SCRIPT CHARACTER-", [(0x18B00, 0x18CD5)]),
  ("NUSHU CHARACTER-", [(0x1B170, 0x1B2FB)])
]

/-- The code of a name that ends with it, written without zeros in front. -/
def numbered? (name : List Char) : Option Nat :=
  numbered.findSome? fun (stem, ranges) => do
    let digits ← after? stem.toList name
    let n ← hexNumber? digits
    if ranges.includes n && digits.head? != some '0' then some n else none

/-- The ideographs. -/
def ideographs : CodeRanges := [
  (0x3400, 0x4DBF), (0x4E00, 0x9FFF), (0x20000, 0x2A6DF), (0x2A700, 0x2B738), (0x2B740, 0x2B81D),
  (0x2B820, 0x2CEA1), (0x2CEB0, 0x2EBE0), (0x30000, 0x3134A)
]

/-- The code of an ideograph, written in four or five digits. -/
def ideograph? (digits : List Char) : Option Nat := do
  let n ← hexNumber? digits
  if (digits.length == 4 || digits.length == 5) && ideographs.includes n then some n else none

/-! ## Named by letters -/

/-- The consonants that begin a syllable; one of them is silent. -/
def initials : List String :=
  ["G", "GG", "N", "D", "DD", "R", "M", "B", "BB", "S", "SS", "", "J", "JJ", "C", "K", "T", "P",
    "H"]

/-- The vowels of syllables. -/
def vowels : List String :=
  ["A", "AE", "YA", "YAE", "EO", "E", "YEO", "YE", "O", "WA", "WAE", "OE", "YO", "U", "WEO", "WE",
    "WI", "YU", "EU", "YI", "I"]

/-- What a syllable may end with. -/
def finals : List String :=
  ["", "G", "GG", "GS", "N", "NJ", "NH", "D", "L", "LG", "LM", "LB", "LS", "LT", "LP", "LH", "M",
    "B", "BS", "S", "SS", "NG", "J", "C", "K", "T", "P", "H"]

/-- The place of some letters in a list. -/
def placeOf? (letters : List Char) (list : List String) : Option Nat :=
  list.findIdx? fun s => s.toList == letters

/-- The code of a syllable: consonants, a vowel, and consonants again. -/
def syllable? (letters : List Char) : Option Nat := do
  let isConsonant (c : Char) : Bool := !(['A', 'E', 'I', 'O', 'U', 'W', 'Y'].contains c)
  let first := letters.takeWhile isConsonant
  let rest := letters.drop first.length
  let vowel := rest.takeWhile (!isConsonant ·)
  let i ← placeOf? first initials
  let j ← placeOf? vowel vowels
  let k ← placeOf? (rest.drop vowel.length) finals
  some (0xAC00 + (i * vowels.length + j) * finals.length + k)

/-! ## All together -/

/-- The code of the character of a name. -/
def code? (name : List Char) : Option Nat :=
  match after? "HANGUL SYLLABLE ".toList name, after? "CJK UNIFIED IDEOGRAPH-".toList name with
  | some letters, _ => syllable? letters
  | none, some digits => ideograph? digits
  | none, none =>
    let name := name.map Char.toUpper
    listed? name <|> numbered? name

end MetesBounds.Text.CharName
