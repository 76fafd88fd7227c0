import ToolAssistant.Json.Source
import ToolAssistant.Decimal.Double

/-!
# Reading JSON

`Source.read?` reads a whole text by the standard grammar and keeps what a reader may still refuse:
repeated keys, half surrogate pairs, numbers out of range and any depth of nesting.  `Json.read?`
goes on to the value, which refuses the last three and lets the last of two equal keys win.

Integers that fit 64 bits stay integers, all other numbers become doubles: the digits are read into
a 64-bit significand, what no longer fits is dropped or counted as a power of ten, and one power of
ten scales the result.  Each of the two steps rounds, so beyond 53 bits the result may be the
neighbour of the nearest double.
-/

namespace ToolAssistant.Json

/-- Drops the blanks between tokens. -/
def skipBlank (cs : List Char) : List Char :=
  cs.dropWhile fun c => c == ' ' || c == '\n' || c == '\t' || c == '\r'

/-- The rest of the text after a fixed beginning. -/
def dropStart? : List Char → List Char → Option (List Char)
  | [], cs => some cs
  | e :: expected, c :: cs => if e = c then dropStart? expected cs else none
  | _ :: _, [] => none

/-- The digits at the front of a text, and the rest. -/
def takeDigits (cs : List Char) : List Char × List Char :=
  (cs.takeWhile Char.isDigit, cs.dropWhile Char.isDigit)

/-- The value of a digit. -/
def digitValue (c : Char) : Nat :=
  c.toNat - '0'.toNat

/-- Appends digits to a significand while it fits 64 bits; the digits left over are returned. -/
def gatherDigits (significand : Nat) : List Char → Nat × List Char
  | [] => (significand, [])
  | c :: rest =>
    let next := significand * 10 + digitValue c
    if next < UInt64.size then gatherDigits next rest else (significand, c :: rest)

/-- The double `10 ^ n`. -/
def powerOfTen (n : Nat) : Float :=
  Float.ofScientific 1 false n

/-- Scales by a power of ten; a result beyond the range is refused. -/
def scaleByTen : Nat → Float → Int → Option Float
  | 0, x, _ => some x
  | fuel + 1, x, exponent =>
    if exponent ≥ 0 then
      if exponent ≤ 308 then
        let y := x * powerOfTen exponent.toNat
        if y.isInf then none else some y
      else if x == 0 then some x
      else none
    else if exponent ≥ -308 then some (x / powerOfTen (-exponent).toNat)
    else if x == 0 then some x
    else scaleByTen fuel (x / powerOfTen 308) (exponent + 308)

/-- The double with a significand of at most 64 bits and a power of ten. -/
def floatOfParts (negative : Bool) (significand : Nat) (exponent : Int) : Option Number :=
  -- Two divisions by `10 ^ 308` turn every significand into zero.
  (scaleByTen 4 (Double.ofInt significand) exponent).map fun x =>
    .float (Double.withSign negative x)

/-- A number as it was read, if it is in range, and the rest of the text. -/
abbrev NumberRead := Option Number × List Char

/-- Reads the digits of an exponent.  An exponent beyond 32 bits makes zero of a small number and
puts a large one out of range. -/
def readExponent? (negative : Bool) (significand : Nat) (exponent : Int) (cs : List Char) :
    Option NumberRead :=
  let (down, cs) :=
    match cs with
    | '+' :: rest => (false, rest)
    | '-' :: rest => (true, rest)
    | _ => (false, cs)
  let (digits, rest) := takeDigits cs
  if digits.isEmpty then none
  else
    let shift := Nat.ofDigitChars 10 digits 0
    if shift ≥ Nat.pow 2 31 then
      if significand ≠ 0 && !down then some (none, rest)
      else some (some (.float (Double.withSign negative 0.0)), rest)
    else
      let scaled := if down then exponent - shift else exponent + shift
      some (floatOfParts negative significand scaled, rest)

/-- Reads the digits after a point, and an exponent if one follows. -/
def readFraction? (negative : Bool) (significand : Nat) (exponent : Int) (cs : List Char) :
    Option NumberRead :=
  let (digits, rest) := takeDigits cs
  if digits.isEmpty then none
  else
    let (gathered, unused) := gatherDigits significand digits
    let exponent := exponent - (digits.length - unused.length : Nat)
    match rest with
    | 'e' :: rest | 'E' :: rest => readExponent? negative gathered exponent rest
    | _ => some (floatOfParts negative gathered exponent, rest)

/-- Reads a number without its sign. -/
def readUnsigned? (negative : Bool) (cs : List Char) : Option NumberRead :=
  let (digits, rest) := takeDigits cs
  if digits.isEmpty || (digits.head? == some '0' && digits.length > 1) then none
  else
    let (significand, unused) := gatherDigits 0 digits
    match rest with
    | '.' :: more => readFraction? negative significand unused.length more
    | 'e' :: more | 'E' :: more => readExponent? negative significand unused.length more
    | _ =>
      if unused.isEmpty && !(negative && (significand == 0 || significand > Nat.pow 2 63)) then
        some (some (.integer (if negative then -significand else significand)), rest)
      else some (floatOfParts negative significand unused.length, rest)

/-- Reads a number. -/
def readNumber? : List Char → Option NumberRead
  | '-' :: rest => readUnsigned? true rest
  | cs => readUnsigned? false cs

/-- The value of a hexadecimal digit. -/
def hexValue? (c : Char) : Option Nat :=
  if c.isDigit then some (c.toNat - '0'.toNat)
  else if 'a' ≤ c ∧ c ≤ 'f' then some (c.toNat - 'a'.toNat + 10)
  else if 'A' ≤ c ∧ c ≤ 'F' then some (c.toNat - 'A'.toNat + 10)
  else none

/-- Reads four hexadecimal digits. -/
def readHex4 : List Char → Option (Nat × List Char)
  | a :: b :: c :: d :: rest => do
    let value := (← [a, b, c, d].mapM hexValue?).foldl (fun n digit => n * 16 + digit) 0
    some (value, rest)
  | _ => none

/-- Reads what follows a backslash, as one unit of a text. -/
def readEscape? : List Char → Option (Nat × List Char)
  | '"' :: rest => some ('"'.toNat, rest)
  | '\\' :: rest => some ('\\'.toNat, rest)
  | '/' :: rest => some ('/'.toNat, rest)
  | 'b' :: rest => some (0x08, rest)
  | 'f' :: rest => some (0x0C, rest)
  | 'n' :: rest => some (0x0A, rest)
  | 'r' :: rest => some (0x0D, rest)
  | 't' :: rest => some (0x09, rest)
  | 'u' :: rest => readHex4 rest
  | _ => none

/-- Reads the rest of a quoted text; `read` holds its units so far, the last one first. -/
def readText? : Nat → List Nat → List Char → Option (List Nat × List Char)
  | 0, _, _ => none
  | _ + 1, _, [] => none
  | fuel + 1, read, c :: rest =>
    if c = '"' then some (read.reverse, rest)
    else if c = '\\' then do
      let (unit, rest) ← readEscape? rest
      readText? fuel (unit :: read) rest
    else if c.toNat < 0x20 then none
    else readText? fuel (c.toNat :: read) rest

mutual

/-- Reads a value. -/
def readSource? : Nat → List Char → Option (Source × List Char)
  | 0, _ => none
  | fuel + 1, cs =>
    match skipBlank cs with
    | '"' :: rest => do
      let (units, rest) ← readText? (fuel + 1) [] rest
      some (.text units, rest)
    | '[' :: rest =>
      match skipBlank rest with
      | ']' :: rest => some (.array [], rest)
      | rest => do
        let (items, rest) ← readItems? fuel rest
        some (.array items, rest)
    | '\x7b' :: rest =>
      match skipBlank rest with
      | '\x7d' :: rest => some (.object [], rest)
      | rest => do
        let (fields, rest) ← readFields? fuel rest
        some (.object fields, rest)
    | 'n' :: rest => do some (.null, ← dropStart? ['u', 'l', 'l'] rest)
    | 't' :: rest => do some (.bool true, ← dropStart? ['r', 'u', 'e'] rest)
    | 'f' :: rest => do some (.bool false, ← dropStart? ['a', 'l', 's', 'e'] rest)
    | cs => do
      let (n, rest) ← readNumber? cs
      some (.number n, rest)

/-- Reads the items of an array up to its end. -/
def readItems? : Nat → List Char → Option (List Source × List Char)
  | 0, _ => none
  | fuel + 1, cs => do
    let (item, rest) ← readSource? fuel cs
    match skipBlank rest with
    | ',' :: rest =>
      let (items, rest) ← readItems? fuel rest
      some (item :: items, rest)
    | ']' :: rest => some ([item], rest)
    | _ => none

/-- Reads the fields of an object up to its end. -/
def readFields? : Nat → List Char → Option (List (List Nat × Source) × List Char)
  | 0, _ => none
  | fuel + 1, cs =>
    match skipBlank cs with
    | '"' :: rest => do
      let (key, rest) ← readText? (fuel + 1) [] rest
      match skipBlank rest with
      | ':' :: rest =>
        let (value, rest) ← readSource? fuel rest
        match skipBlank rest with
        | ',' :: rest =>
          let (fields, rest) ← readFields? fuel rest
          some ((key, value) :: fields, rest)
        | '\x7d' :: rest => some ([(key, value)], rest)
        | _ => none
      | _ => none
    | _ => none

end

/-- Reads a whole text.  Every character takes at most two steps. -/
def Source.read? (text : String) : Option Source := do
  let cs := text.toList
  let (source, rest) ← readSource? (2 * cs.length + 2) cs
  if (skipBlank rest).isEmpty then some source else none

/-- Reads a whole text as one value. -/
def read? (text : String) : Option Json := do
  (← Source.read? text).value?

end ToolAssistant.Json
