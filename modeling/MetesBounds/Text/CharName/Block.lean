import MetesBounds.Text.Pieces

/-!
# `Text/CharName/Block` — names of characters, written down

Characters with consecutive codes make a block, and their names resemble each other. A block is
written down as a text in which every name begins with a sign: the signs from `:` to `?` say how
many words the name shares with the one before it, and the other words follow; the sign `@` says
that the name is the one before it with one more in the number at its end. A frequent word is
written in one or two small letters, and any other as it is, with a blank between two of these.
-/

set_option autoImplicit false

namespace MetesBounds.Text.CharName

/-- The code of the first of some characters, and the text of all their names, in rows. -/
abbrev Block := Nat × List String

/-! ## Words -/

/-- A word as it is written. -/
abbrev Word := List Char

/-- The words that are written in small letters, in rows. -/
def frequentRows : List String := [
  "WITH LETTER SMALL FORM CAPITAL SIGN AND ARROW ABOVE RIGHT LEFT TWO BELOW ONE FINAL DOUBLE MARK",
  "DOT THREE BLACK ISOLATED WHITE FOUR HOOK STROKE SYMBOL FIVE INITIAL MIDDLE RIGHTWARDS HEAVY",
  "PLUS VERTICAL MEEM TIMES SIX EIGHT BAR LEFTWARDS DOWN SEVEN HALF HUNDRED VOWEL NINE BRACKET",
  "FACE SQUARE DOTS CIRCLE OVER YEH THOUSAND INDEX ALEF EQUAL DIGIT HORIZONTAL LIGHT LOWER TILDE",
  "DOWNWARDS RING TRIANGLE LOW BARB HAH UPWARDS ACUTE MEDIUM MEDIAL UPPER ZERO THUMB WEST-CREE",
  "JEEM LONG OPEN TURNED TEN CIRCUMFLEX DASIA TONE HIGH LINE PSILI REVERSED DIAERESIS NGA SHA",
  "SINGLE STOP TRIANGLE-HEADED ARROWHEAD POINTING LARGE GRAVE MAKSURA CHA NYA INVERTED KHA MACRON",
  "NUMBER EAST ROTATED CENTRE OXIA VARIA COMMA THA ARABIC BLOCK LESS-THAN NOT GREATER-THAN",
  "MATHEMATICAL OLD STAR VOCALIC LATIN BREVE HARPOON SYLLABLE KHAH LITTLE PHA TAIL CIRCLED GUNU",
  "WEST ANGLE DEGREES ORNAMENT SHORT FULL ANUSVARA TTA DDA GHA DHA NORTH ASH NUN PERISPOMENI",
  "TRIPLE ASTERISK CROSS CARON COMBINING DIAGONAL GREEK NNA BHA OPERATOR HAMZA PUNCTUATION SOUTH",
  "DASH PARENTHESIS RETROFLEX TENU TOP TTHA SSA TWENTY VIRAMA DDHA DESCENDER DIAMOND DOTTED",
  "ACCENT FOR NOON OMEGA WAW NINETY YPOGEGRAMMENI ETHIOPIC LIGATURE SQUARED VISARGA CLOSED EQUALS",
  "POINTED ALPHA HORN SEVENTY TACK FIFTY QUARTER BOTTOM CHESS COLON CORNER IOTA MODIFIER SCRIPT",
  "SEPARATOR CANDRABINDU CROSSING FROM HAND HITTING UPSILON BENT BOLD DANDA QUOTATION SHIN",
  "CEDILLA HEART ORKHON PALATAL QUESTION SIDE DIGRAPH GLOTTAL HAND-FIST KNIGHT PROSGEGRAMMENI",
  "VERY YENISEI EIGHTH SEEN COPTIC CURLY EPSILON EXCLAMATION MOON RAISED SIGMA SUBSET NUKTA THETA",
  "UNDERBAR EQUILATERAL FINGERS RIGHT-POINTING SECTION SHELL SOLIDUS STRAIGHT SUPERSET ALTERNATE",
  "CONSONANT DAGESH DISH OVERLAY REVERSE SANS-SERIF TAMIL GAMMA NEUTRAL SHAFT SLANTED SPACE",
  "THIRTY TRIANGULAR VARIANT CONJOINED MOUTH DELTA LEFT-POINTING ARCHAIC ARCHAION FRACTION HINGED",
  "INSIDE INTEGRAL SHEEN TONOS ABBREVIATION ALTERNATING ANTICLOCKWISE CURVE DOUBLE-STRUCK FORTY",
  "FORWARD HAND-HINGE HANGUL INSULAR KAPPA MINUS OMICRON SPOKED TORTOISE ALEPH ARROWS BETWEEN",
  "GHAIN HAND-CIRCLE HEARTS INTERSECTION SIXTY SMILING SOUND UNION ALMOST AVAGRAHA CHARACTER",
  "DIALYTIKA DOTLESS GIMEL GURMUKHI IDEOGRAPHIC IOTIFIED NEGATIVE PERSON QUEEN SAMEKH SLASH",
  "ARABIC-INDIC C-SIMPLIFIED CANDRA EIGHTHS EIGHTY EQUIVALENT GRANTHA LAMEDH LENGTH OBLIQUE",
  "OGONEK QUADRANT QUARTERS BENGALI BULLET CYRILLIC DIAMONDS GUJARATI KANNADA KATAKANA MUSICAL",
  "SPADES SUPERSCRIPT THROUGH TWELVE UP-POINTING CIRCLES CLOCKWISE CROSSED DASHED ITALIC LOGICAL",
  "LOZENGE MULTIPLE OVERBAR PRECEDES PRODUCT RISING SHADOWED SINHALA SPREAD SUCCEEDS TAILED",
  "TELUGU DOWN-POINTING HAND-ANGLE KRYZHEM MOVEMENT-FLOORPLANE MOVEMENT-WALLPLANE NOTEHEAD",
  "POVYSHE SEMICOLON TABULATION TELEPHONE CARRIER EXTENDED FIFTEEN GEORGIAN MULTIPLICATION",
  "QUADRUPLE SALTIRE SIMALUNGUN TWO-HEADED ALPAPRAANA ELEMENT INVERSE ITERATION LEFT-STEM",
  "MAHAAPRAANA TWELFTHS APOSTROPHE CHARACTERS CROSSED-TAIL CRYPTOGRAMMIC EIGHTEEN ENVELOPE",
  "LENTICULAR PINWHEEL SIDEWAYS STRETCHED ABKHASIAN AMPERSAND COMPRESSED CRESCENTS DIALECT-P",
  "EXTENSION INDEPENDENT INDICATOR KHAROSHTHI MAHAPRANA MALAYALAM SEVENTEEN SUBJOINED THOUSANDS",
  "TURNSTILE ZAPYATAYA CONTAINING INFORMATION KLYUCHEVAYA TEARDROP-SPOKED VERTICALLY DIFFERENTIAL",
  "DOUBLE-LINE JIHVAMULIYA SINGLE-LINE SUBSTITUTION UPADHMANIYA APPROXIMATELY KATAKANA-HIRAGANA",
  "LEFT-TO-RIGHT NEPOSTOYANNAYA PARENTHESIZED ROTATION-FLOORPLANE ROTATION-WALLPLANE"
]

/-- The words that are written in small letters. -/
def frequent : List Word := frequentRows.flatMap fun row => cut [' '] row.toList

/-- How many words are written in one letter: those from `a` to `j` stand alone. -/
def single : Nat := 10

/-- The small letters for a frequent word. -/
def inLetters (place : Nat) : Word :=
  let letter (n : Nat) := Char.ofNat ('a'.toNat + n)
  if place < single then [letter place]
  else
    let n := place - single
    [letter (single + n / 26), letter (n % 26)]

/-- How a word in capital letters is written. -/
def written (word : List Char) : Word :=
  match frequent.findIdx? (· == word) with
  | some place => inLetters place
  | none => word

/-- Whether a letter is a frequent word by itself. -/
def isAlone (c : Char) : Bool := c < Char.ofNat ('a'.toNat + single)

/-- A word that has been read, last character first, if it has any. -/
def ended (begun : List Char) : List Word := if begun.isEmpty then [] else [begun.reverse]

/-- The words of a row of characters; of one that is written as it is, some characters are taken in
already, the last of them first. -/
def wordsFrom (begun : List Char) : List Char → List Word
  | [] => ended begun
  | ' ' :: rest => ended begun ++ wordsFrom [] rest
  | c :: d :: rest =>
    if !c.isLower then wordsFrom (c :: begun) (d :: rest)
    else if isAlone c then ended begun ++ [c] :: wordsFrom [] (d :: rest)
    else ended begun ++ [c, d] :: wordsFrom [] rest
  | [c] => if c.isLower then ended begun ++ [[c]] else ended (c :: begun)

/-! ## Names -/

/-- The sign of a name that shares no words. -/
def firstSign : Char := ':'

/-- The sign for one more in the number at the end, which is the last sign. -/
def nextSign : Char := '@'

/-- Whether a character is a sign that begins a name. -/
def isSign (c : Char) : Bool := firstSign ≤ c && c ≤ nextSign

/-- A word with one more in the number at its end, which keeps its digits or gets more. -/
def raised (word : Word) : Word :=
  let digits := (word.reverse.takeWhile Char.isDigit).reverse
  let number := Nat.toDigits 10 (digits.foldl (fun n c => 10 * n + (c.toNat - '0'.toNat)) 0 + 1)
  word.take (word.length - digits.length) ++
    List.replicate (digits.length - number.length) '0' ++ number

/-- The name that a sign begins, after another. -/
def following (before : List Word) (sign : Char) (rest : List Char) : List Word :=
  if sign == nextSign then before.dropLast ++ [raised (before.getLastD [])]
  else before.take (sign.toNat - firstSign.toNat) ++ wordsFrom [] rest

/-- Where a name stands among those of a text, the name before them being given. -/
def placeFrom (name before : List Word) (place : Nat) (cs : List Char) : Option Nat :=
  match cs with
  | [] => none
  | sign :: rest =>
    let here := following before sign (rest.takeWhile fun c => !isSign c)
    if here = name then some place
    else placeFrom name here (place + 1) (rest.dropWhile fun c => !isSign c)
termination_by cs.length
decreasing_by
  have := (List.dropWhile_sublist (l := rest) fun c => !isSign c).length_le
  simp only [List.length_cons]
  omega

/-- The code of the character of a name in a block. -/
def codeIn? (name : List Word) (block : Block) : Option Nat :=
  (placeFrom name [] 0 (block.2.flatMap String.toList)).map (block.1 + ·)

end MetesBounds.Text.CharName
