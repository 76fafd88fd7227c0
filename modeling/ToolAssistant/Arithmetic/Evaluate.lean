import ToolAssistant.Arithmetic.Expr

/-!
# Evaluation

Integers stay exact and are refused when they leave 128 bits.  A decimal literal anywhere makes
every literal a double; otherwise a division with a remainder, or a negative exponent, gives a
double from there on.  The remainder takes the sign of the divisor.  A double that an operator
produces has to be finite.
-/

namespace ToolAssistant.Arithmetic

/-- An operator's result, which has to be finite. -/
def finite (x : Float) : Except Error Number :=
  if Double.isFinite x then .ok (.float x) else .error .nonFinite

/-- An operator's exact result, which has to fit. -/
def exact (n : Int) : Except Error Number :=
  if InRange n then .ok (.int n) else .error .overflow

/-- The remainder with the sign of the divisor, for a divisor that is not zero. -/
def flooredModulo (a b : Int) : Int :=
  let r := Int.tmod a b
  if r != 0 && (r < 0) != (b < 0) then r + b else r

/-- A binary operator on integers. -/
def applyInt (op : BinaryOp) (a b : Int) : Except Error Number :=
  match op with
  | .add => exact (a + b)
  | .sub => exact (a - b)
  | .mul => exact (a * b)
  | .div =>
    if b = 0 then .error .divisionByZero
    else if Int.tmod a b = 0 then exact (Int.tdiv a b)
    else finite (Double.ofInt a / Double.ofInt b)
  | .mod =>
    if b = 0 then .error .moduloByZero
    -- The remainder is taken with the quotient, which has to fit as well.
    else if ¬ InRange (Int.tdiv a b) then .error .overflow
    else exact (flooredModulo a b)
  | .pow =>
    -- The least integer passes as an exponent, because its size comes out negative.
    if magnitude b > maxExponent then .error .exponentTooLarge
    else if b < 0 then
      if a = 0 then .error .zeroToNegativePower
      else finite (Float.pow (Double.ofInt a) (Double.ofInt b))
    else exact (Int.pow a b.toNat)

/-- The remainder with the sign of the divisor, for a divisor that is not zero. -/
def flooredRemainder (a b : Float) : Float :=
  let r := Double.truncatedRemainder a b
  if r != 0.0 && (r < 0.0) != (b < 0.0) then r + b else r

/-- A binary operator on doubles. -/
def applyFloat (op : BinaryOp) (a b : Float) : Except Error Number :=
  match op with
  | .add => finite (a + b)
  | .sub => finite (a - b)
  | .mul => finite (a * b)
  | .div => if b == 0.0 then .error .divisionByZero else finite (a / b)
  | .mod => if b == 0.0 then .error .moduloByZero else finite (flooredRemainder a b)
  | .pow =>
    if b.abs > Double.ofInt maxExponent then .error .exponentTooLarge
    else if a == 0.0 && b < 0.0 then .error .zeroToNegativePower
    else if a < 0.0 && !Double.isIntegral b then .error .complexResult
    else finite (Float.pow a b)

/-- A binary operator: exact on two integers, and on doubles otherwise. -/
def apply (op : BinaryOp) : Number → Number → Except Error Number
  | .int a, .int b => applyInt op a b
  | a, b => applyFloat op a.toFloat b.toFloat

/-- A sign. -/
def applySign (op : UnaryOp) (value : Number) : Except Error Number :=
  match op, value with
  | .plus, value => .ok value
  | .neg, .int n => exact (-n)
  | .neg, .float x => .ok (.float (-x))

/-- Does a decimal literal occur in the expression? -/
def Expr.hasFloat : Expr → Bool
  | .literal value => value.isFloat
  | .group inner => inner.hasFloat
  | .unary _ operand => operand.hasFloat
  | .binary _ left right => left.hasFloat || right.hasFloat

/-- The value of an expression; with `promote` every literal is taken as a double. -/
def Expr.value (promote : Bool) : Expr → Except Error Number
  | .literal value => .ok (if promote then .float value.toFloat else value)
  | .group inner => inner.value promote
  | .unary op operand => do applySign op (← operand.value promote)
  | .binary op left right => do
    let a ← left.value promote
    let b ← right.value promote
    apply op a b

/-- The value of an arithmetic expression. -/
def evaluate (text : String) : Except Error Number :=
  if text.utf8ByteSize > maxLength then .error .tooLong
  else do
    let tokens ← tokenize text
    let expr ← parse tokens
    expr.value expr.hasFloat

end ToolAssistant.Arithmetic
