import ToolAssistant.Calendar.Date
import ToolAssistant.Decimal.Double
import ToolAssistant.Json.Basic

/-!
# Numbers, dates and times in configuration files

Integers have a sign and 64 bits, and may be written in four bases; single underscores may stand
between digits.  A decimal number beyond the range of the doubles is refused, unless it is negative.
-/

namespace ToolAssistant.Toml

/-- Reads digits of a class with single underscores between them. -/
def digits? (isDigit : Char → Bool) : List Char → Option (List Char × List Char)
  | [] => none
  | c :: rest =>
    if !isDigit c then none
    else
      match rest with
      | '_' :: more => do
        let (digits, rest) ← digits? isDigit more
        some (c :: digits, rest)
      | more =>
        if more.head?.any isDigit then do
          let (digits, rest) ← digits? isDigit more
          some (c :: digits, rest)
        else some ([c], more)

/-- Reads decimal digits. -/
def decimalDigits? (cs : List Char) : Option (List Char × List Char) :=
  digits? Char.isDigit cs

/-- Reads a sign, if there is one; says whether it is a minus. -/
def sign : List Char → Bool × List Char
  | '-' :: rest => (true, rest)
  | '+' :: rest => (false, rest)
  | cs => (false, cs)

/-- An integer of 64 bits. -/
def integer? (n : Int) : Option Json :=
  if Json.fitsInt64 n then some (.ofInt n) else none

/-- The value of a digit in any base. -/
def digitValue (c : Char) : Nat :=
  if c.isDigit then c.toNat - '0'.toNat else c.toLower.toNat - 'a'.toNat + 10

/-- Reads an integer in another base. -/
def basedInteger? (base : Nat) (cs : List Char) : Option (Json × List Char) := do
  let isDigit (c : Char) : Bool :=
    (c.isDigit || ('a' ≤ c.toLower && c.toLower ≤ 'f')) && digitValue c < base
  let (digits, rest) ← digits? isDigit cs
  some (← integer? (digits.foldl (fun n c => n * base + digitValue c) 0 : Nat), rest)

/-- The double nearest to `digits · 10 ^ exponent`. -/
def scaled (digits : List Char) (exponent : Int) : Float :=
  let n := Nat.ofDigitChars 10 digits 0
  let size := exponent + digits.length
  -- Far beyond the range only the sign of the exponent counts.
  if n = 0 ∨ size < -400 then 0.0
  else if (digits.dropWhile (· == '0')).length + exponent > 400 then 1.0 / 0.0
  else Float.ofScientific n (exponent < 0) exponent.natAbs

/-- Reads an exponent, if there is one. -/
def exponent? (cs : List Char) : Option (Option Int × List Char) :=
  match cs with
  | 'e' :: rest | 'E' :: rest => do
    let (negative, rest) := sign rest
    let (digits, rest) ← decimalDigits? rest
    let n : Int := (Nat.ofDigitChars 10 digits 0 : Nat)
    some (some (if negative then -n else n), rest)
  | _ => some (none, cs)

/-- Reads a decimal integer or a number with a point or an exponent. -/
def decimal? (cs : List Char) : Option (Json × List Char) := do
  let (negative, unsigned) := sign cs
  let (whole, rest) ←
    match unsigned with
    | '0' :: rest => some (['0'], rest)
    | cs => decimalDigits? cs
  let (places, afterPoint) ←
    match rest with
    | '.' :: more => decimalDigits? more
    | _ => some ([], rest)
  let (exponent, rest) ← exponent? afterPoint
  if places.isEmpty && exponent.isNone then
    let n : Int := (Nat.ofDigitChars 10 whole 0 : Nat)
    some (← integer? (if negative then -n else n), rest)
  else
    let x := scaled (whole ++ places) (exponent.getD 0 - places.length)
    if x.isInf && !negative then none else some (.ofFloat (Double.withSign negative x), rest)

/-- Reads a name of a special number after a sign. -/
def specialNumber? (cs : List Char) : Option (Json × List Char) :=
  let (negative, unsigned) := sign cs
  match unsigned with
  | 'i' :: 'n' :: 'f' :: rest => some (.ofFloat (Double.withSign negative (1.0 / 0.0)), rest)
  | 'n' :: 'a' :: 'n' :: rest => some (.ofFloat (Double.withSign negative (0.0 / 0.0)), rest)
  | _ => none

/-! ## Dates and times -/

/-- Reads exactly `count` digits. -/
def fixedDigits? (count : Nat) (cs : List Char) : Option (Nat × List Char) :=
  let digits := cs.take count
  if digits.length = count ∧ digits.all Char.isDigit then
    some (Nat.ofDigitChars 10 digits 0, cs.drop count)
  else none

/-- Reads two digits up to a greatest number. -/
def twoDigits? (greatest : Nat) (cs : List Char) : Option (Nat × List Char) :=
  (fixedDigits? 2 cs).filter fun read => read.1 ≤ greatest

/-- Reads one given character. -/
def mark? (mark : Char) : List Char → Option (List Char)
  | c :: rest => if c = mark then some rest else none
  | [] => none

/-- Does a date start here? -/
def startsDate (cs : List Char) : Bool :=
  match fixedDigits? 4 cs with
  | some (_, '-' :: _) => true
  | _ => false

/-- Does a time start here? -/
def startsTime (cs : List Char) : Bool :=
  match twoDigits? 23 cs with
  | some (_, ':' :: _) => true
  | _ => false

/-- Reads a date. -/
def date? (cs : List Char) : Option (List Char) := do
  let (year, cs) ← fixedDigits? 4 cs
  let (month, cs) ← twoDigits? 12 (← mark? '-' cs)
  let (day, cs) ← twoDigits? 31 (← mark? '-' cs)
  if 1 ≤ month ∧ 1 ≤ day ∧ day ≤ Date.daysInMonth year month then some cs else none

/-- Reads a time of day with an optional fraction of a second. -/
def time? (cs : List Char) : Option (List Char) := do
  let (_, cs) ← twoDigits? 23 cs
  let (_, cs) ← twoDigits? 59 (← mark? ':' cs)
  let (_, cs) ← twoDigits? 60 (← mark? ':' cs)
  match cs with
  | '.' :: more =>
    if more.head?.any Char.isDigit then some (more.dropWhile Char.isDigit) else some cs
  | _ => some cs

/-- Reads an offset from UTC, if there is one. -/
def offset? : List Char → Option (List Char)
  | 'Z' :: rest | 'z' :: rest => some rest
  | '+' :: rest | '-' :: rest => do
    let (_, rest) ← twoDigits? 23 rest
    let (_, rest) ← twoDigits? 59 (← mark? ':' rest)
    some rest
  | cs => some cs

/-- Reads a date, a time, or both. -/
def dateTime? (cs : List Char) : Option (List Char) := do
  if startsTime cs then time? cs
  else
    let rest ← date? cs
    match rest with
    | 'T' :: more | 't' :: more | ' ' :: more =>
      if startsTime more then offset? (← time? more) else some rest
    | _ => some rest

/-- The field under which a date or a time is carried as data; no record has it. -/
def dateField : String := "$date"

/-- Reads a number, a date or a time. -/
def number? (cs : List Char) : Option (Json × List Char) :=
  if startsDate cs || startsTime cs then do
    let rest ← dateTime? cs
    let text := String.ofList (cs.take (cs.length - rest.length))
    some (.ofFields [(dateField, .string text)], rest)
  else
    match cs with
    | '0' :: 'x' :: rest => basedInteger? 16 rest
    | '0' :: 'o' :: rest => basedInteger? 8 rest
    | '0' :: 'b' :: rest => basedInteger? 2 rest
    | _ => (specialNumber? cs).or (decimal? cs)

end ToolAssistant.Toml
