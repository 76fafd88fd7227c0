/-!
# Why an expression has no value

Every way in which an arithmetic expression can be refused, from its text to its result, and the
wording of each.
-/

namespace ToolAssistant.Arithmetic

/-- Longest accepted expression, in bytes. -/
def maxLength : Nat := 1024

/-- Deepest accepted nesting. -/
def maxDepth : Nat := 64

/-- Largest accepted magnitude of an exponent. -/
def maxExponent : Nat := 1024

/-- Language constructs that are recognised only to be refused. -/
inductive Construct where
  | attributeAccess
  | stringLiteral
  | statementSeparator
  | subscript
  | collection
  | argumentList
  deriving DecidableEq, Repr

/-- How a construct is called in a message. -/
def Construct.text : Construct → String
  | .attributeAccess => "attribute access"
  | .stringLiteral => "string literal"
  | .statementSeparator => "statement separator"
  | .subscript => "subscript or list literal"
  | .collection => "collection literal"
  | .argumentList => "tuple or argument list"

/-- Why an expression has no value. -/
inductive Error where
  | empty
  | tooLong
  | tooDeep
  | disallowed (construct : Construct)
  | disallowedOperator (operator : String)
  | nameReference (name : String)
  | invalidNumber (text : String)
  | unexpectedCharacter (character : Char) (position : Nat)
  | unexpectedToken (token : String)
  | unexpectedEnd
  | unbalancedParentheses
  | divisionByZero
  | moduloByZero
  | zeroToNegativePower
  | exponentTooLarge
  | complexResult
  | overflow
  | nonFinite
  deriving DecidableEq, Repr

/-- The wording of a refusal. -/
def Error.message : Error → String
  | .empty => "expression is empty"
  | .tooLong => "expression exceeds " ++ toString maxLength ++ " bytes"
  | .tooDeep => "expression nests deeper than " ++ toString maxDepth ++ " levels"
  | .disallowed construct => construct.text ++ " is not allowed"
  | .disallowedOperator operator => "operator '" ++ operator ++ "' is not allowed"
  | .nameReference name =>
    "name '" ++ name ++ "' is not allowed; only numbers and + - * / % ** ( ) are accepted"
  | .invalidNumber text => "invalid number literal '" ++ text ++ "'"
  | .unexpectedCharacter character position =>
    "unexpected character '" ++ character.toString ++ "' at position " ++ toString position
  | .unexpectedToken token => "unexpected " ++ token
  | .unexpectedEnd => "unexpected end of expression"
  | .unbalancedParentheses => "unbalanced parentheses"
  | .divisionByZero => "division by zero"
  | .moduloByZero => "modulo by zero"
  | .zeroToNegativePower => "zero cannot be raised to a negative power"
  | .exponentTooLarge => "exponent magnitude exceeds " ++ toString maxExponent
  | .complexResult => "negative number raised to a fractional power has no real result"
  | .overflow => "integer overflow"
  | .nonFinite => "result is not a finite number"

end ToolAssistant.Arithmetic
