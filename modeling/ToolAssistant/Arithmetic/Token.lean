import ToolAssistant.Arithmetic.Error
import ToolAssistant.Text.Blank
import ToolAssistant.Text.Numeric

/-!
# Tokens of an arithmetic expression

Only numbers, six operators and parentheses are tokens.  Whatever would introduce a name, a text, a
call, a subscript, a comparison or a statement is refused here, before any parser sees it.

## Strategy

The scanner walks the characters once and carries the number it is in the middle of.  A character
either continues that number or ends it; a number may not be followed directly by a name character
or a second point.
-/

namespace ToolAssistant.Arithmetic

/-- The tokens of an expression. -/
inductive Token where
  | number (text : String) (dotted : Bool)
  | plus
  | minus
  | star
  | doubleStar
  | slash
  | percent
  | leftParen
  | rightParen
  deriving DecidableEq, Repr

namespace Token

/-- How a token is called in a message. -/
def describe : Token → String
  | number text _ => "number '" ++ text ++ "'"
  | plus => "'+'"
  | minus => "'-'"
  | star => "'*'"
  | doubleStar => "'**'"
  | slash => "'/'"
  | percent => "'%'"
  | leftParen => "'('"
  | rightParen => "')'"

end Token

/-- May the character start a name? -/
def isNameStart (c : Char) : Bool :=
  Text.isAlphabetic c || c == '_'

/-- May the character continue a name? -/
def isNameCharacter (c : Char) : Bool :=
  Text.isAlphanumeric c || c == '_'

/-- Does the character continue the number read so far, or start one? -/
def continuesNumber (pending : List Char) (c : Char) : Bool :=
  c.isDigit || c == '.' && !pending.contains '.'

/-- The token of the number read so far, if one was being read. -/
def pendingToken (pending : List Char) : List Token :=
  if pending.isEmpty then [] else [.number (String.ofList pending) (pending.contains '.')]

/-- The token of one character that never combines with the next one. -/
def singleToken? : Char → Option Token
  | '+' => some .plus
  | '-' => some .minus
  | '%' => some .percent
  | '(' => some .leftParen
  | ')' => some .rightParen
  | _ => none

/-- Why the text may not go on with this character, which starts no token. -/
def refusal (position : Nat) (c : Char) (rest : List Char) : Error :=
  if isNameStart c then .nameReference (String.ofList (c :: rest.takeWhile isNameCharacter))
  else if c = '\'' ∨ c = '"' then .disallowed .stringLiteral
  else if c = ';' then .disallowed .statementSeparator
  else if c = '[' ∨ c = ']' then .disallowed .subscript
  else if c = '\x7b' ∨ c = '\x7d' then .disallowed .collection
  else if c = ',' then .disallowed .argumentList
  else if c = '<' ∨ c = '>' ∨ c = '=' ∨ c = '!' then
    .disallowedOperator
      (String.ofList (c :: (rest.take 1).filter fun d => d == '=' || d == '<' || d == '>'))
  else if c = '&' ∨ c = '|' ∨ c = '^' ∨ c = '~' ∨ c = '@' then .disallowedOperator c.toString
  else .unexpectedCharacter c position

/-- The tokens of the rest of a text, which starts at `position`; `pending` holds the number that
is being read. -/
def scan (position : Nat) (pending : List Char) : List Char → Except Error (List Token)
  | [] =>
    if !pending.isEmpty && !pending.any Char.isDigit then .error (.disallowed .attributeAccess)
    else .ok (pendingToken pending)
  | c :: rest =>
    if continuesNumber pending c then scan (position + 1) (pending ++ [c]) rest
    else if !pending.isEmpty && !pending.any Char.isDigit then
      -- A point without digits is attribute access.
      .error (.disallowed .attributeAccess)
    else if !pending.isEmpty && (isNameCharacter c || c == '.') then
      let more := (c :: rest).takeWhile fun d => isNameCharacter d || d == '.'
      .error (.invalidNumber (String.ofList (pending ++ more)))
    else if Text.isBlank c then do
      return pendingToken pending ++ (← scan (position + 1) [] rest)
    else if c = '*' then
      match rest with
      | '*' :: more => do
        return pendingToken pending ++ .doubleStar :: (← scan (position + 2) [] more)
      | more => do
        return pendingToken pending ++ .star :: (← scan (position + 1) [] more)
    else if c = '/' then
      if rest.head? = some '/' then .error (.disallowedOperator "//")
      else do
        return pendingToken pending ++ .slash :: (← scan (position + 1) [] rest)
    else
      match singleToken? c with
      | some token => do
        return pendingToken pending ++ token :: (← scan (position + 1) [] rest)
      | none => .error (refusal position c rest)

/-- The tokens of a text. -/
def tokenize (text : String) : Except Error (List Token) :=
  scan 0 [] text.toList

end ToolAssistant.Arithmetic
