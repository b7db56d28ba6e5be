import MetesBounds.Text.CodeRanges

/-!
# `Text/Blank` — white space, and what is left of a text without it at the ends

Two classes are in use. `isBlank` is all white space; it surrounds cells, lines and bearings.
`isNumeralBlank` is what may surround a numeral: the same class without the four information
separators U+001C to U+001F.
-/

set_option autoImplicit false

namespace MetesBounds.Text

/-- White space of every kind. -/
def blankRanges : CodeRanges := [
  (0x09, 0x0D), (0x1C, 0x20), (0x85, 0x85), (0xA0, 0xA0), (0x1680, 0x1680), (0x2000, 0x200A),
  (0x2028, 0x2029), (0x202F, 0x202F), (0x205F, 0x205F), (0x3000, 0x3000)
]

/-- A white-space character. -/
def isBlank (c : Char) : Bool := blankRanges.contains c

/-- White space that may surround a numeral. -/
def isNumeralBlank (c : Char) : Bool := isBlank c && !(0x1C ≤ c.toNat && c.toNat ≤ 0x1F)

/-- A row of characters without those of class `p` at either end. -/
def trimBoth (p : Char → Bool) (cs : List Char) : List Char :=
  ((cs.dropWhile p).reverse.dropWhile p).reverse

/-- A text without white space at either end. -/
def trim (s : String) : String := String.ofList (trimBoth isBlank s.toList)

/-- The words between white space in a row of characters, the first of which has begun with
`begun`, last character first. -/
def wordsFrom (begun : List Char) : List Char → List (List Char)
  | [] => if begun.isEmpty then [] else [begun.reverse]
  | c :: rest =>
    if isBlank c then (if begun.isEmpty then [] else [begun.reverse]) ++ wordsFrom [] rest
    else wordsFrom (c :: begun) rest

/-- The words of a text. -/
def words (s : String) : List String := (wordsFrom [] s.toList).map String.ofList

theorem isBlank_of_isWhitespace (c : Char) (h : c.isWhitespace = true) : isBlank c = true := by
  simp only [Char.isWhitespace, Bool.or_eq_true, decide_eq_true_eq] at h
  rcases h with ((h | h) | h) | h <;> subst h <;> decide

end MetesBounds.Text
