import MetesBounds.Text.Blank
import MetesBounds.Text.Pieces
import MetesBounds.Text.Word

/-!
# `Measure/Spelling` — everyday spellings of units, made plain

People write `square foot`, `foot squared`, `m²`, `meter per second`, `5 km` or `2kg`. Before an
expression is read, such spellings are rewritten with the signs `*`, `/` and `**`: commas are left
out, words for powers become powers, a number written directly before a letter is multiplied with
it, and white space between two operands becomes a product. Each rule goes over the whole text
before the next.
-/

set_option autoImplicit false

namespace MetesBounds

namespace Spelling

/-! ## Rules on white space -/

/-- White space of any length after one of some characters becomes a single space. -/
def mergeBlanks (after : Char → Bool) : List Char → List Char
  | [] => []
  | c :: rest =>
    if after c && rest.head?.any Text.isBlank then
      c :: ' ' :: mergeBlanks after (rest.dropWhile Text.isBlank)
    else c :: mergeBlanks after rest
termination_by cs => cs.length
decreasing_by
  · have := (List.dropWhile_sublist (l := rest) Text.isBlank).length_le
    simp; omega
  · simp

/-- White space between the end of one operand and the beginning of the next becomes a product. -/
def multiplyBlanks : List Char → List Char
  | [] => []
  | c :: rest =>
    let next := rest.dropWhile Text.isBlank
    if (Text.isWordChar c || c == '.' || c == ')') && rest.head?.any Text.isBlank &&
        next.head?.any (fun d => Text.isWordChar d || d == '(') then
      c :: '*' :: multiplyBlanks next
    else c :: multiplyBlanks rest
termination_by cs => cs.length
decreasing_by
  · have := (List.dropWhile_sublist (l := rest) Text.isBlank).length_le
    simp; omega
  · simp

/-! ## Words for powers -/

/-- A character of a plain name. -/
def isPlain (c : Char) : Bool := c.isAlphanum || c == '_'

/-- A character that a plain name begins with. -/
def beginsPlain (c : Char) : Bool := c.isAlpha || c == '_'

/-- A word that follows a name becomes its power. `named` tells whether a name ends here. -/
def powerAfter (word power : List Char) (named : Bool) : List Char → List Char
  | [] => []
  | c :: rest =>
    if named && word.isPrefixOf (c :: rest) then
      power ++ powerAfter word power false (rest.drop (word.length - 1))
    else c :: powerAfter word power (beginsPlain c || named && isPlain c) rest
termination_by cs => cs.length
decreasing_by all_goals (simp; try omega)

/-- A word that stands before a name becomes the power of that name. -/
def powerBefore (word power : List Char) : List Char → List Char
  | [] => []
  | c :: rest =>
    let next := rest.drop (word.length - 1)
    if word.isPrefixOf (c :: rest) && next.head?.any beginsPlain then
      let name := next.takeWhile isPlain
      name ++ power ++ powerBefore word power (next.drop name.length)
    else c :: powerBefore word power rest
termination_by cs => cs.length
decreasing_by all_goals (simp; try omega)

/-! ## Numbers before letters -/

/-- A numeral with an optional point, at the beginning of a row of characters. -/
def numeral (cs : List Char) : List Char :=
  let whole := cs.takeWhile Char.isDigit
  match cs.dropWhile Char.isDigit with
  | '.' :: rest => whole ++ '.' :: rest.takeWhile Char.isDigit
  | _ => whole

/-- Whether a number right before these characters is multiplied with them: a letter follows, and
no power of ten. -/
def asksProduct : List Char → Bool
  | [] => false
  | c :: rest =>
    if c == 'e' || c == 'E' then rest.head?.any Char.isAlpha
    else c.isAlpha || (c == '|' && rest.head?.any Char.isAlpha)

/-- A number written directly before a letter is multiplied with it; `inWord` tells whether a word
goes on here. -/
def multiplyNumbers (inWord : Bool) : List Char → List Char
  | [] => []
  | c :: rest =>
    let n := numeral (c :: rest)
    let next := rest.drop (n.length - 1)
    if !inWord && c.isDigit && asksProduct next then
      n ++ '*' :: multiplyNumbers false next
    else c :: multiplyNumbers (Text.isWordChar c) rest
termination_by cs => cs.length
decreasing_by all_goals (simp; try omega)

/-! ## Raised digits -/

/-- The raised digits, from zero to nine. -/
def raisedDigits : List Char := ['⁰', '¹', '²', '³', '⁴', '⁵', '⁶', '⁷', '⁸', '⁹']

/-- A raised character, or the raised point of a product, on the line. -/
def lowered (c : Char) : Char :=
  if c == '·' then '*'
  else if c == '⁻' then '-'
  else
    match raisedDigits.idxOf? c with
    | some n => Char.ofNat (48 + n)
    | none => c

/-- The raised exponents in a text, in order. -/
def raisedNumbers : List Char → List (List Char)
  | [] => []
  | c :: rest =>
    let isRaised (d : Char) : Bool := raisedDigits.contains d
    let sign := if c == '⁻' then [c] else []
    let ds := ((c :: rest).drop sign.length).takeWhile isRaised
    let after := (c :: rest).drop (sign.length + ds.length)
    let places :=
      match after with
      | '.' :: more => '.' :: more.takeWhile isRaised
      | _ => []
    let number := sign ++ ds ++ places
    if ds.isEmpty then raisedNumbers rest
    else number :: raisedNumbers (rest.drop (number.length - 1))
termination_by cs => cs.length
decreasing_by
  · simp
  · rw [List.length_drop, List.length_cons]; omega

/-- Every occurrence of a row of characters replaced by another. -/
def replace (old new cs : List Char) : List Char := List.intercalate new (Text.cut old cs)

/-- Raised exponents become powers. -/
def powersOfRaised (cs : List Char) : List Char :=
  let step (cs number : List Char) : List Char :=
    replace number ('*' :: '*' :: number.map lowered) cs
  ((raisedNumbers cs).foldl step cs).map lowered

/-! ## All rules -/

/-- A text with every everyday spelling made plain. -/
def plain (s : String) : String :=
  let isBeforeBlank (c : Char) : Bool :=
    Text.isWordChar c || c == '.' || c == '-' || c == '+' || c == '*' || c == '\x5c' || c == '^'
  let cs := s.toList.filter (· != ',')
  let cs := replace " per ".toList ['/'] cs
  let cs := replace ['°'] "degree".toList cs
  let cs := mergeBlanks isBeforeBlank cs
  let cs := powerAfter " squared".toList "**2".toList false cs
  let cs := powerAfter " cubed".toList "**3".toList false cs
  let cs := powerBefore "cubic ".toList "**3".toList cs
  let cs := powerBefore "square ".toList "**2".toList cs
  let cs := powerBefore "sq ".toList "**2".toList cs
  let cs := multiplyNumbers false cs
  let cs := multiplyBlanks cs
  let cs := powersOfRaised cs
  String.ofList (replace ['^'] ['*', '*'] cs)

/-- A text in which signs for shares are written as words. -/
def sharesAsWords (s : String) : String :=
  let cs := replace ['‰'] " permille ".toList s.toList
  String.ofList (replace ['%'] " percent ".toList cs)

end Spelling

end MetesBounds
