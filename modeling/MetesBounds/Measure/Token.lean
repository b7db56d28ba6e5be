import MetesBounds.Error
import MetesBounds.Text.Word

/-!
# `Measure/Token` — the parts of an expression

An expression is cut into numbers, names, signs and parentheses. Everything else in it is passed
over: white space, remarks after `#`, texts in quotation marks, signs that mean nothing here, words
that cannot be names, and characters of no kind at all. Brackets and braces are passed over too,
but have to close as often as they open, as parentheses do.
-/

set_option autoImplicit false

namespace MetesBounds

/-- The signs of operations. -/
inductive Sign where
  | power | times | slash | doubleSlash | remainder | plus | minus
  deriving DecidableEq

/-- A sign as it is written. -/
def Sign.text : Sign → String
  | power => "**"
  | times => "*"
  | slash => "/"
  | doubleSlash => "//"
  | remainder => "%"
  | plus => "+"
  | minus => "-"

/-- A part of an expression. A closing parenthesis is told with its place, and the line that it
stands in, for messages. -/
inductive Token where
  | number (text : String)
  | name (text : String)
  | sign (s : Sign)
  | opening
  | closing (line column : Nat) (text : String)

namespace Token

/-! ## Numbers -/

/-- The digits at the beginning of a row of characters, with single underscores between them. -/
def digits (isDigit : Char → Bool) : List Char → List Char
  | c :: '_' :: d :: rest =>
    if !isDigit c then []
    else if isDigit d then c :: '_' :: digits isDigit (d :: rest)
    else [c]
  | c :: rest => if isDigit c then c :: digits isDigit rest else []
  | [] => []
termination_by cs => cs.length

/-- Digits after a sign of their base, such as `0x`. -/
def based (letter : Char) (isDigit : Char → Bool) : List Char → List Char
  | '0' :: c :: rest =>
    let gap := (rest.take 1).filter (· == '_')
    let ds := digits isDigit (rest.drop gap.length)
    if c.toLower == letter && !ds.isEmpty then '0' :: c :: gap ++ ds else []
  | _ => []

/-- A plain digit. -/
def isDecimal (c : Char) : Bool := c.isDigit

/-- A hexadecimal digit. -/
def isHexadecimal (c : Char) : Bool :=
  c.isDigit || ('a' ≤ c.toLower && c.toLower ≤ 'f')

/-- A whole number: in base sixteen, two or eight, zeros, or digits that do not begin with one. -/
def wholeNumber (cs : List Char) : List Char :=
  let candidates := [
    based 'x' isHexadecimal cs,
    based 'b' (fun c => c == '0' || c == '1') cs,
    based 'o' (fun c => '0' ≤ c && c ≤ '7') cs
  ]
  match candidates.find? fun ds => !ds.isEmpty with
  | some ds => ds
  | none =>
    if cs.head? == some '0' then digits (· == '0') cs else digits isDecimal cs

/-- A power of ten. -/
def powerOfTen : List Char → List Char
  | [] => []
  | e :: rest =>
    let signs := (rest.take 1).filter fun c => c == '-' || c == '+'
    let ds := digits isDecimal (rest.drop signs.length)
    if (e == 'e' || e == 'E') && !ds.isEmpty then e :: signs ++ ds else []

/-- A number with a point or a power of ten; empty if there is none. -/
def pointedNumber (cs : List Char) : List Char :=
  let ds := digits isDecimal cs
  match cs.drop ds.length with
  | '.' :: rest =>
    let places := digits isDecimal rest
    if ds.isEmpty && places.isEmpty then []
    else ds ++ '.' :: places ++ powerOfTen (rest.drop places.length)
  | rest =>
    let power := powerOfTen rest
    if ds.isEmpty || power.isEmpty then [] else ds ++ power

/-- A number at the beginning of a row of characters; empty if there is none. A `j` at its end
belongs to it. -/
def numberText (cs : List Char) : List Char :=
  let plain := digits isDecimal cs
  let pointed := pointedNumber cs
  let unit (n : List Char) : Option Char := (cs.drop n.length).head?.filter fun c =>
    !n.isEmpty && (c == 'j' || c == 'J')
  match unit plain, unit pointed with
  | some j, _ => plain ++ [j]
  | none, some j => pointed ++ [j]
  | none, none => if pointed.isEmpty then wholeNumber cs else pointed

/-! ## Texts -/

/-- The letters that may stand directly before a quotation mark. -/
def textMarks : List String := ["", "b", "r", "u", "f", "br", "rb", "fr", "rf"]

/-- How many characters a text takes up to the quotation mark that ends it; there is none if the
line ends before. -/
def untilMark (mark : Char) : List Char → Option Nat
  | [] => none
  | '\x5c' :: c :: rest => if c == '\n' then none else (untilMark mark rest).map (· + 2)
  | c :: rest =>
    if c == mark then some 1
    else if c == '\n' then none
    else (untilMark mark rest).map (· + 1)

/-- How many characters a text takes up to the three quotation marks that end it. -/
def untilMarks (mark : Char) : List Char → Option Nat
  | [] => none
  | '\x5c' :: _ :: rest => (untilMarks mark rest).map (· + 2)
  | c :: rest =>
    if c == mark && rest.take 2 == [mark, mark] then some 3
    else (untilMarks mark rest).map (· + 1)

/-- What a text in quotation marks may be. -/
inductive Quotation where
  | none
  | ended (length : Nat)
  | unended

/-- The text in quotation marks at the beginning of a row of characters, after `skipped` letters. -/
def quotationAfter (skipped : Nat) (cs : List Char) : Quotation :=
  match cs with
  | q :: rest =>
    if q != '\x22' && q != '\x27' then .none
    else if rest.take 2 == [q, q] then
      match untilMarks q (rest.drop 2) with
      | some n => .ended (skipped + 3 + n)
      | none => .unended
    else
      match untilMark q rest with
      | some n => .ended (skipped + 1 + n)
      | none => .none
  | [] => .none

/-- The text in quotation marks at the beginning of a row of characters. -/
def quotation (cs : List Char) : Quotation :=
  let letters := cs.takeWhile Char.isAlpha
  if textMarks.contains (String.ofList (letters.map Char.toLower)) then
    quotationAfter letters.length (cs.drop letters.length)
  else .none

/-! ## Signs -/

/-- The signs of more than one character, longest first. -/
def longSigns : List (String × Option Sign) := [
  ("**=", none), ("...", none), ("//=", none), ("<<=", none), (">>=", none), ("!=", none),
  ("%=", none), ("&=", none), ("**", some .power), ("*=", none), ("+=", none), ("-=", none),
  ("->", none), ("//", some .doubleSlash), ("/=", none), (":=", none), ("<<", none), ("<=", none),
  ("==", none), (">=", none), (">>", none), ("@=", none), ("^=", none), ("|=", none)
]

/-- The signs of one character that mean something. -/
def shortSigns : List (Char × Sign) :=
  [('*', .times), ('/', .slash), ('%', .remainder), ('+', .plus), ('-', .minus)]

/-! ## Cutting -/

/-- What stands at the beginning of a row of characters. -/
inductive Piece where
  | passedOver
  | number
  | name
  | sign (s : Sign)
  | parenthesis (opens : Bool)
  | bracket (opens : Bool)
  | unendedText

/-- What a row of characters begins with, and how many characters that takes, where it is more
than one. -/
def firstPiece (cs : List Char) : Piece × Nat :=
  let number := numberText cs
  let word := cs.takeWhile Text.isWordChar
  match cs.head? with
  | none => (.passedOver, 1)
  | some c =>
    if c == '#' then (.passedOver, (cs.takeWhile fun d => d != '\n' && d != '\r').length)
    else if !number.isEmpty then (.number, number.length)
    else
      match quotation cs with
      | .ended n => (.passedOver, n)
      | .unended => (.unendedText, 1)
      | .none =>
        if !word.isEmpty then (if Text.beginsName c then .name else .passedOver, word.length)
        else
          match longSigns.find? fun s => s.1.toList.isPrefixOf cs with
          | some s => ((s.2.map Piece.sign).getD .passedOver, s.1.length)
          | none =>
            if c == '(' then (.parenthesis true, 1)
            else if c == ')' then (.parenthesis false, 1)
            else if c == '[' || c == '\x7b' then (.bracket true, 1)
            else if c == ']' || c == '\x7d' then (.bracket false, 1)
            else (((shortSigns.find? fun s => s.1 == c).map (.sign ·.2)).getD .passedOver, 1)

/-- A place in a text: how many lines end before it, the characters of its line before it, last
first, and how many parentheses and brackets are open. -/
structure Place where
  lines : Nat
  before : List Char
  depth : Int

/-- The place after some more characters. -/
def Place.after (p : Place) (cs : List Char) : Place :=
  cs.foldl (fun p c =>
    if c == '\n' then { p with lines := p.lines + 1, before := [] }
    else { p with before := c :: p.before }) p

/-- The place with one more parenthesis or bracket open, or one less. -/
def Place.deeper (p : Place) (opens : Bool) : Place :=
  { p with depth := if opens then p.depth + 1 else p.depth - 1 }

/-- The line that a place stands in, of which `rest` is still to come. -/
def Place.line (p : Place) (rest : List Char) : String :=
  let ending := if rest.contains '\n' then ['\n'] else []
  String.ofList (Text.ofChars (p.before.reverse ++ rest.takeWhile (· != '\n') ++ ending))

/-- The tokens of a text from a place on. -/
def readFrom (p : Place) : List Char → Except Error (List Token)
  | [] =>
    let lines := if p.before.isEmpty then p.lines else p.lines + 1
    if p.depth = 0 then .ok [] else .error (.unfinishedExpression lines)
  | c :: rest =>
    let (piece, length) := firstPiece (c :: rest)
    let next := rest.drop (length - 1)
    let taken := c :: rest.take (length - 1)
    let after := p.after taken
    match piece with
    | .passedOver => readFrom after next
    | .number => do return .number (String.ofList taken) :: (← readFrom after next)
    | .name => do return .name (String.ofList taken) :: (← readFrom after next)
    | .sign s => do return .sign s :: (← readFrom after next)
    | .parenthesis true => do return .opening :: (← readFrom (after.deeper true) next)
    | .parenthesis false => do
      let here := .closing (p.lines + 1) p.before.length (p.line (c :: rest))
      return here :: (← readFrom (after.deeper false) next)
    | .bracket opens => readFrom (after.deeper opens) next
    | .unendedText => .error (.unfinishedText (p.lines + 1) p.before.length)
termination_by cs => cs.length
decreasing_by all_goals simp only [List.length_cons, List.length_drop]; omega

/-- The tokens of a text. -/
def ofText (s : String) : Except Error (List Token) :=
  match Text.halves? (fun _ => false) s with
  | some halves => .error (.unencodable halves)
  | none => readFrom ⟨0, [], 0⟩ ((Text.codes s).map Char.ofNat)

end Token

end MetesBounds
