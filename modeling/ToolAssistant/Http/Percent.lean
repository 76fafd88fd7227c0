import ToolAssistant.Text.Range

/-!
# Percent encoding

A character that may not stand in a part of a URL is written as the bytes of its UTF-8 form, each a
percent sign and two hexadecimal digits.  Which characters those are depends on the part.  In form
encoding a blank is written as a plus sign, and all but letters, digits and `*-._` is escaped.
-/

namespace ToolAssistant.Http

/-- A hexadecimal digit in upper case. -/
def upperHexDigit (n : Nat) : Char :=
  (Nat.digitChar (n % 16)).toUpper

/-- A byte as it is escaped. -/
def escapeByte (byte : UInt8) : List Char :=
  ['%', upperHexDigit (byte.toNat / 16), upperHexDigit byte.toNat]

/-- A character as it is escaped. -/
def escapeChar (c : Char) : List Char :=
  (String.utf8EncodeChar c).flatMap escapeByte

/-- A text with the characters of a set escaped. -/
def escape (escaped : Char → Bool) (cs : List Char) : List Char :=
  cs.flatMap fun c => if escaped c then escapeChar c else [c]

/-- The value of a hexadecimal digit, given as a byte. -/
def hexValue? (byte : UInt8) : Option UInt8 :=
  if 0x30 ≤ byte ∧ byte ≤ 0x39 then some (byte - 0x30)
  else if 0x41 ≤ byte ∧ byte ≤ 0x46 then some (byte - 0x41 + 10)
  else if 0x61 ≤ byte ∧ byte ≤ 0x66 then some (byte - 0x61 + 10)
  else none

/-- The byte that two digits after a percent sign stand for. -/
def escapedByte? (mark high low : UInt8) : Option UInt8 := do
  if mark = 0x25 then some ((← hexValue? high) * 16 + (← hexValue? low)) else none

/-- Puts bytes in for their escapes; a percent sign without two digits stands for itself. -/
def unescapeBytes : List UInt8 → List UInt8
  | mark :: high :: low :: rest =>
    match escapedByte? mark high low with
    | some byte => byte :: unescapeBytes rest
    | none => mark :: unescapeBytes (high :: low :: rest)
  | bytes => bytes

/-- The text that an escaped text stands for, if it is a text. -/
def unescape? (text : String) : Option String :=
  String.fromUTF8? ⟨(unescapeBytes text.toUTF8.toList).toArray⟩

/-- What is escaped everywhere: control characters and whatever is not ASCII. -/
def isControlOrForeign (c : Char) : Bool :=
  c.toNat < 0x20 || 0x7E < c.toNat

/-- What is escaped in a path. -/
def escapedInPath (c : Char) : Bool :=
  isControlOrForeign c || " \"#<>?\x60\x7b\x7d".contains c

/-- What is escaped in a query. -/
def escapedInQuery (c : Char) : Bool :=
  isControlOrForeign c || " \"#<>'".contains c

/-- What stands for itself in a form. -/
def plainInForm (c : Char) : Bool :=
  c.isAlphanum || c == '*' || c == '-' || c == '.' || c == '_'

/-- A character in a form. -/
def formChar (c : Char) : List Char :=
  if c = ' ' then ['+'] else if plainInForm c then [c] else escapeChar c

/-- A text in a form. -/
def formText (text : String) : List Char :=
  text.toList.flatMap formChar

/-- A name and its value in a form. -/
def formPair (pair : String × String) : List Char :=
  formText pair.1 ++ '=' :: formText pair.2

/-- The pairs of a form, in order. -/
def formPairs (pairs : List (String × String)) : List Char :=
  List.intercalate ['&'] (pairs.map formPair)

end ToolAssistant.Http
