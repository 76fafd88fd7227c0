import ToolAssistant.Arithmetic.Token
import ToolAssistant.Arithmetic.Number

/-!
# Expressions and their grammar

```text
expr   := term (("+" | "-") term)*
term   := factor (("*" | "/" | "%") factor)*
factor := ("+" | "-") factor | power
power  := atom ("**" factor)?
atom   := NUMBER | "(" expr ")"
```

A power associates to the right and binds tighter than a sign on its left; all other operators
associate to the left.

## Strategy

All nesting of the grammar goes through `factor`, and at most `maxDepth` factors may be nested.  So
`factor` recurses on how much nesting is left, and each of the other productions is a function of
the parser for the factors inside it.
-/

namespace ToolAssistant.Arithmetic

/-- Signs. -/
inductive UnaryOp where
  | plus
  | neg
  deriving DecidableEq, Repr

/-- Binary operators. -/
inductive BinaryOp where
  | add
  | sub
  | mul
  | div
  | mod
  | pow
  deriving DecidableEq, Repr

/-- Everything that an expression may contain. -/
inductive Expr where
  | literal (value : Number)
  | group (inner : Expr)
  | unary (op : UnaryOp) (operand : Expr)
  | binary (op : BinaryOp) (left right : Expr)

/-- A parser takes an expression from the front of a list of tokens. -/
abbrev Parser := List Token → Except Error (Expr × List Token)

/-- The double nearest to a decimal literal, which has a point and at least one digit. -/
def floatOfLiteral (text : List Char) : Float :=
  let whole := text.takeWhile (· != '.')
  let fraction := (text.dropWhile (· != '.')).drop 1
  Float.ofScientific (Nat.ofDigitChars 10 (whole ++ fraction) 0) true fraction.length

/-- The number that a literal stands for. -/
def literalValue (text : String) (dotted : Bool) : Except Error Number :=
  if dotted then .ok (.float (floatOfLiteral text.toList))
  else
    let n : Int := Nat.ofDigitChars 10 text.toList 0
    if n ≤ maxInteger then .ok (.int n) else .error .overflow

/-- Extends an expression to the left-associative chain that follows it: operators from `op?`, each
with an operand.  At most `fuel` operators are read. -/
def chain (operand : Parser) (op? : Token → Option BinaryOp) :
    Nat → Expr → Parser
  | fuel + 1, left, token :: rest =>
    match op? token with
    | none => .ok (left, token :: rest)
    | some op => do
      let (right, rest) ← operand rest
      chain operand op? fuel (.binary op left right) rest
  | _, left, tokens => .ok (left, tokens)

/-- Operators of a term. -/
def productOp? : Token → Option BinaryOp
  | .star => some .mul
  | .slash => some .div
  | .percent => some .mod
  | _ => none

/-- Operators of a sum. -/
def sumOp? : Token → Option BinaryOp
  | .plus => some .add
  | .minus => some .sub
  | _ => none

/-- A chain of operands; every operator takes a token, so there are fewer operators than tokens. -/
def chainOf (operand : Parser) (op? : Token → Option BinaryOp) : Parser := fun tokens => do
  let (left, rest) ← operand tokens
  chain operand op? rest.length left rest

/-- A product of factors. -/
def termOf (factor : Parser) : Parser :=
  chainOf factor productOp?

/-- A sum of terms. -/
def exprOf (factor : Parser) : Parser :=
  chainOf (termOf factor) sumOp?

/-- A number, or an expression in parentheses. -/
def atomOf (factor : Parser) : Parser
  | .number text dotted :: rest => do
    return (.literal (← literalValue text dotted), rest)
  | .leftParen :: rest => do
    let (inner, rest) ← exprOf factor rest
    match rest with
    | .rightParen :: rest => .ok (.group inner, rest)
    | token :: _ => .error (.unexpectedToken token.describe)
    | [] => .error .unbalancedParentheses
  | .rightParen :: _ => .error .unbalancedParentheses
  | token :: _ => .error (.unexpectedToken token.describe)
  | [] => .error .unexpectedEnd

/-- An atom, raised to a power if a power follows.  The exponent may carry its own sign. -/
def powerOf (factor : Parser) : Parser := fun tokens => do
  let (base, rest) ← atomOf factor tokens
  match rest with
  | .doubleStar :: rest =>
    let (exponent, rest) ← factor rest
    return (.binary .pow base exponent, rest)
  | rest => return (base, rest)

/-- A factor with at most `depth` factors nested in each other, itself counted. -/
def factor : Nat → Parser
  | 0, _ => .error .tooDeep
  | depth + 1, .plus :: rest => do
    let (operand, rest) ← factor depth rest
    return (.unary .plus operand, rest)
  | depth + 1, .minus :: rest => do
    let (operand, rest) ← factor depth rest
    return (.unary .neg operand, rest)
  | depth + 1, tokens => powerOf (factor depth) tokens

/-- Reads a whole list of tokens as one expression. -/
def parse (tokens : List Token) : Except Error Expr :=
  if tokens.isEmpty then .error .empty
  else do
    let (expr, rest) ← exprOf (factor maxDepth) tokens
    match rest with
    | [] => .ok expr
    | token :: _ => .error (.unexpectedToken token.describe)

end ToolAssistant.Arithmetic
