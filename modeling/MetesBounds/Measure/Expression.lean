import MetesBounds.Measure.Token

/-!
# `Measure/Expression` — what an expression is made of

Tokens are put together to a tree of operations. Powers bind closest and go from right to left,
then come signs before an operand, then products and quotients from left to right, then sums and
differences. Operands side by side are multiplied: a number or a name binds like a product there,
while a parenthesis binds to the one operand that stands before it, however that is bound.
-/

set_option autoImplicit false

namespace MetesBounds

/-- An expression. Operands side by side have no sign. -/
inductive Expression where
  | number (text : String)
  | name (text : String)
  | signed (s : Sign) (operand : Expression)
  | operation (s : Option Sign) (left right : Expression)

namespace Expression

/-- What stands before the part of an expression that is being read. -/
inductive Before where
  | nothing
  | parenthesis
  | signOf
  | operand (s : Option Sign)

/-- How closely an operation binds its operands. -/
def closeness : Option Sign → Nat
  | some .power => 4
  | some .plus | some .minus => 1
  | _ => 2

/-- How closely an operand is bound to what stands before it. -/
def Before.closeness : Before → Nat
  | nothing | parenthesis => 0
  | signOf => 3
  | operand s => Expression.closeness s

/-- Whether an operation has to wait until the one before it is done. -/
def Before.binds (before : Before) (s : Option Sign) : Bool :=
  Expression.closeness s ≤ before.closeness && s != some .power

/-- The expression read so far, if anything is. -/
def given (left : Option Expression) : Except Error Expression :=
  match left with
  | some e => .ok e
  | none => .error .noOperand

/-- Two operands side by side, of which the first may be missing. -/
def beside (left : Option Expression) (right : Expression) : Expression :=
  match left with
  | some e => operation none e right
  | none => right

/-- Reads on with `left` read so far, up to where the operation before has its operand. Tokens that
are not used are given back. Each token is looked at no more than twice before it is used, which
bounds `fuel`. -/
def readFrom (fuel : Nat) (before : Before) (left : Option Expression) (ts : List Token) :
    Except Error (Expression × List Token) :=
  match fuel with
  | 0 => .error .noOperand
  | fuel + 1 => do
    match ts, left, before with
    | [], _, .parenthesis => throw (.badExpression .unclosed)
    | [], left, _ => return (← given left, [])
    | .closing line column text :: _, _, .nothing =>
      throw (.badExpression (.closingAlone line column text))
    | .closing .. :: _, left, _ => return (← given left, ts)
    | .opening :: rest, left, before =>
      let (right, rest) ← readFrom fuel .parenthesis none rest
      readFrom fuel before (some (beside left right)) (rest.drop 1)
    | .sign s :: rest, some e, before =>
      if before.binds s then return (e, ts)
      else
        let (right, rest) ← readFrom fuel (.operand s) none rest
        readFrom fuel before (some (operation s e right)) rest
    | .sign s :: rest, none, before =>
      let (operand, rest) ← readFrom fuel .signOf none rest
      readFrom fuel before (some (signed s operand)) rest
    | .number _ :: _, some e, before | .name _ :: _, some e, before =>
      if before.binds none then return (e, ts)
      else
        let (right, rest) ← readFrom fuel (.operand none) none ts
        readFrom fuel before (some (operation none e right)) rest
    | .number text :: rest, none, before => readFrom fuel before (some (number text)) rest
    | .name text :: rest, none, before => readFrom fuel before (some (name text)) rest

/-- The expression that tokens make. -/
def ofTokens (ts : List Token) : Except Error Expression := do
  return (← readFrom (2 * ts.length + 2) .nothing none ts).1

/-- The expression that a text is. -/
def ofText (s : String) : Except Error Expression := do ofTokens (← Token.ofText s)

end Expression

end MetesBounds
