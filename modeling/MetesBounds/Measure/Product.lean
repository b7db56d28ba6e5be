import MetesBounds.Decimal.Reader
import MetesBounds.Measure.Expression
import MetesBounds.Measure.Powers
import MetesBounds.Measure.Scalar
import MetesBounds.Measure.Spelling

/-!
# `Measure/Product` — what an expression of a unit or a dimension comes to

A product is a plain number, its scale, times powers of names. Products can be multiplied, divided
and raised to plain numbers; there are no sums of them. Names in brackets are taken as they stand,
and a name that says "not a number" makes the scale one.
-/

set_option autoImplicit false

namespace MetesBounds

/-- A plain number times powers of names. -/
structure Product where
  scale : Scalar
  factors : Powers

namespace Product

/-- The product of nothing. -/
def one : Product := ⟨.one, []⟩

/-- The name of a product's kind in messages. -/
def kindName : String := "ParserHelper"

/-- A product of two products. -/
def times (p q : Product) : Except Error Product := do
  let factors ← p.factors.times q.factors
  return ⟨← p.scale.product q.scale, factors⟩

/-- A quotient of two products. -/
def quotient (p q : Product) : Except Error Product := do
  let factors ← p.factors.quotient q.factors
  return ⟨← p.scale.quotient q.scale, factors⟩

/-- A power of a product. -/
def power (p : Product) (n : Scalar) : Except Error Product := do
  match n with
  | .real n =>
    let factors ← p.factors.raised n
    return ⟨← p.scale.power (.real n), factors⟩
  | .complex _ =>
    let scale ← p.scale.power n
    if p.factors.isEmpty then return ⟨scale, []⟩ else throw (.notReal n.kindName)

end Product

/-- What an expression comes to. -/
inductive Amount where
  | plain (n : Scalar)
  | product (p : Product)

namespace Amount

/-- The name of an amount's kind. -/
def kindName : Amount → String
  | plain n => n.kindName
  | product _ => Product.kindName

/-- The amounts multiplied. -/
def times : Amount → Amount → Except Error Amount
  | plain m, plain n => do return plain (← m.product n)
  | product p, plain n => do return product { p with scale := ← p.scale.product n }
  | plain n, product p => do return product { p with scale := ← p.scale.product n }
  | product p, product q => do return product (← p.times q)

/-- One amount divided by another. -/
def quotient : Amount → Amount → Except Error Amount
  | plain m, plain n => do return plain (← m.quotient n)
  | product p, plain n => do return product { p with scale := ← p.scale.quotient n }
  | plain n, product p => do
    let p ← p.power (.real (.whole (-1)))
    return product { p with scale := ← p.scale.product n }
  | product p, product q => do return product (← p.quotient q)

/-- A power of an amount. -/
def power : Amount → Amount → Except Error Amount
  | plain m, plain n => do return plain (← m.power n)
  | product p, plain n => do return product (← p.power n)
  | plain m, product _ => .error (.noOperation "** or pow()" m.kindName Product.kindName)
  | product p, product _ =>
    .error (.noOperation "** or pow()" p.scale.kindName Product.kindName)

/-- An operation that only plain numbers have. -/
def onPlain (s : Sign) (op : Scalar → Scalar → Except Error Scalar) :
    Amount → Amount → Except Error Amount
  | plain m, plain n => do return plain (← op m n)
  | a, b => .error (.noOperation s.text a.kindName b.kindName)

/-- The floor of a quotient; that of a product is the quotient itself. -/
def floorQuotient : Amount → Amount → Except Error Amount
  | product p, b => (product p).quotient b
  | plain m, b => onPlain .doubleSlash Scalar.floorQuotient (plain m) b

/-- What an operation comes to. -/
def operation : Option Sign → Amount → Amount → Except Error Amount
  | none | some .times => times
  | some .slash => quotient
  | some .power => power
  | some .doubleSlash => floorQuotient
  | some .remainder => onPlain .remainder Scalar.remainder
  | some .plus => onPlain .plus Scalar.sum
  | some .minus => onPlain .minus Scalar.difference

end Amount

namespace Expression

/-- A number as it is written in an expression. -/
def numberOfText (text : String) : Except Error Number :=
  let isWhole (c : Char) : Bool := c.isDigit || c == '_'
  let digits := text.toList.filter Char.isDigit
  if text.toList.all isWhole && digits.length ≤ Number.mostDigits then
    .ok (.whole (Text.digitsValue digits))
  else
    match Decimal.read? text with
    | some x => .ok (.real x)
    | none => .error (.notANumeral (Text.quoted text))

/-- What an expression comes to, with amounts of some type. Operands come first, from left to
right. -/
def evaluate {α : Type} (ofNumber : Number → α) (ofName : String → Except Error α)
    (operation : Option Sign → α → α → Except Error α) : Expression → Except Error α
  | .number text => do return ofNumber (← numberOfText text)
  | .name text => ofName text
  | .signed .plus e => evaluate ofNumber ofName operation e
  | .signed .minus e => do
    operation (some .times) (← evaluate ofNumber ofName operation e) (ofNumber (.whole (-1)))
  | .signed s _ => .error (.badExpression (.noUnary s.text))
  | .operation s left right => do
    let a ← evaluate ofNumber ofName operation left
    let b ← evaluate ofNumber ofName operation right
    operation s a b

end Expression

namespace Product

/-- The words that brackets are written as while a text is cut into tokens, so that they count as
letters. -/
def bracketWords : List (List Char × List Char) :=
  [(['['], "__obra__".toList), ([']'], "__cbra__".toList)]

/-- A text with brackets written as words. -/
def withoutBrackets (s : String) : String :=
  String.ofList (bracketWords.foldl (fun cs w => Spelling.replace w.1 w.2 cs) s.toList)

/-- A name with its brackets. -/
def withBrackets (s : String) : String :=
  String.ofList (bracketWords.foldl (fun cs w => Spelling.replace w.2 w.1 cs) s.toList)

/-- Whether a name says that the scale is not a number. -/
def saysNotANumber (name : String) : Bool := name.toList.map Char.toLower == "nan".toList

/-- The product without the names that say that the scale is not a number. -/
def settled (p : Product) : Product :=
  if p.factors.any fun f => saysNotANumber f.1 then
    ⟨.real (.real (0.0 / 0.0)), p.factors.filter fun f => !saysNotANumber f.1⟩
  else p

/-- The product that an expression in plain spelling comes to. -/
def ofPlain (s : String) : Except Error Product := do
  let ofName (name : String) : Except Error Amount :=
    .ok (.product ⟨.one, [(name, .whole 1)]⟩)
  match ← (← Expression.ofText s).evaluate (Amount.plain ∘ .real) ofName Amount.operation with
  | .plain n => return ⟨n, []⟩
  | .product p => return p

/-- The product that an expression comes to; an empty one is the product of nothing. -/
def ofText (s : String) : Except Error Product := do
  if s.isEmpty then return .one
  else
    let s := Spelling.plain s
    if s.contains '[' then
      let p ← ofPlain (withoutBrackets s)
      return settled { p with factors := p.factors.map fun f => (withBrackets f.1, f.2) }
    else return settled (← ofPlain s)

end Product

end MetesBounds
