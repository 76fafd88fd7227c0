import ToolAssistant.Calendar.Date
import ToolAssistant.Text.Blank

/-!
# Points in time

An instant is a date and a time of day in UTC, to the nanosecond.  A leap second is kept as second
59 with a fraction of one second or more.  Instants are written with a `Z` and as many places as
they need in groups of three; they are read with any offset, with blanks before the numbers and with
a blank for the `T`.
-/

namespace ToolAssistant

/-- A point in time. -/
structure Instant where
  date : Date
  secondOfDay : Nat
  nanosecond : Nat
  deriving DecidableEq, Repr

namespace Instant

/-- Seconds since the first of January 1970, rounded down. -/
def unixSeconds (instant : Instant) : Int :=
  instant.date.toDayNumber * 86400 + instant.secondOfDay

/-- The instant so many nanoseconds after the first of January 1970. -/
def ofUnixNanoseconds (nanoseconds : Int) : Instant :=
  let seconds := nanoseconds / 1000000000
  ⟨.ofDayNumber (seconds / 86400), (seconds % 86400).toNat, (nanoseconds % 1000000000).toNat⟩

/-- The fraction of a second, in as many groups of three digits as it needs. -/
def fractionText (nanosecond : Nat) : String :=
  if nanosecond = 0 then ""
  else if nanosecond % 1000000 = 0 then "." ++ Date.padded 3 (nanosecond / 1000000)
  else if nanosecond % 1000 = 0 then "." ++ Date.padded 6 (nanosecond / 1000)
  else "." ++ Date.padded 9 nanosecond

/-- The instant in UTC. -/
def text (instant : Instant) : String :=
  let leap := if instant.nanosecond ≥ 1000000000 then 1 else 0
  let second := instant.secondOfDay
  instant.date.text ++ "T" ++ Date.padded 2 (second / 3600) ++ ":" ++
    Date.padded 2 (second / 60 % 60) ++ ":" ++ Date.padded 2 (second % 60 + leap) ++
    fractionText (instant.nanosecond - leap * 1000000000) ++ "Z"

/-! ## Reading -/

/-- Drops blanks. -/
def skipBlank (cs : List Char) : List Char :=
  cs.dropWhile Text.isBlank

/-- Reads one to `width` digits after any blanks. -/
def readDigits? (width : Nat) (cs : List Char) : Option (Nat × List Char) :=
  let cs := skipBlank cs
  let digits := (cs.take width).takeWhile Char.isDigit
  if digits.isEmpty then none
  else some (Nat.ofDigitChars 10 digits 0, cs.drop digits.length)

/-- Reads a number of one or two digits in a range. -/
def readPart? (low high : Nat) (cs : List Char) : Option (Nat × List Char) := do
  let (n, rest) ← readDigits? 2 cs
  if low ≤ n ∧ n ≤ high then some (n, rest) else none

/-- Reads a year: up to four digits, or any number of them after a sign. -/
def readYear? (cs : List Char) : Option (Int × List Char) :=
  match skipBlank cs with
  | '-' :: rest => if rest.head?.any Char.isDigit then
      (readDigits? rest.length rest).map fun (n, rest) => (-(n : Int), rest)
    else none
  | '+' :: rest => if rest.head?.any Char.isDigit then
      (readDigits? rest.length rest).map fun (n, rest) => ((n : Int), rest)
    else none
  | cs => (readDigits? 4 cs).map fun (n, rest) => ((n : Int), rest)

/-- Reads one given character after any blanks. -/
def readMark? (mark : Char) (cs : List Char) : Option (List Char) :=
  match skipBlank cs with
  | c :: rest => if c = mark then some rest else none
  | [] => none

/-- Reads the fraction of a second, if there is one; digits after the ninth do not count. -/
def readFraction? (cs : List Char) : Option (Nat × List Char) :=
  match cs with
  | '.' :: rest =>
    let digits := rest.takeWhile Char.isDigit
    let kept := digits.take 9
    if kept.isEmpty then none
    else
      some (Nat.ofDigitChars 10 kept 0 * Nat.pow 10 (9 - kept.length), rest.drop digits.length)
  | cs => some (0, cs)

/-- Reads the hours and minutes of an offset; colons and blanks may stand between them. -/
def readClock? (cs : List Char) : Option (Nat × List Char) :=
  match cs with
  | h :: h' :: rest =>
    if h.isDigit && h'.isDigit then
      match rest.dropWhile fun c => c == ':' || Text.isBlank c with
      | m :: m' :: rest =>
        if m.isDigit && m'.isDigit && m ≤ '5' then
          some (Nat.ofDigitChars 10 [h, h'] 0 * 3600 + Nat.ofDigitChars 10 [m, m'] 0 * 60, rest)
        else none
      | _ => none
    else none
  | _ => none

/-- Reads an offset from UTC in seconds; the sign may be the minus sign of typography. -/
def readOffset? (cs : List Char) : Option (Int × List Char) :=
  match cs with
  | 'Z' :: rest | 'z' :: rest => some (0, rest)
  | '+' :: rest => (readClock? rest).map fun (n, rest) => ((n : Int), rest)
  | '-' :: rest | '−' :: rest => (readClock? rest).map fun (n, rest) => (-(n : Int), rest)
  | a :: b :: c :: rest =>
    if [a, b, c].map Char.toLower = ['u', 't', 'c'] then some (0, rest) else none
  | _ => none

/-- Reads year, month and day; whether the calendar has the date is not asked yet. -/
def readDate? (cs : List Char) : Option (Date × List Char) := do
  let (year, cs) ← readYear? cs
  let (month, cs) ← readPart? 1 12 (← readMark? '-' cs)
  let (day, cs) ← readPart? 1 31 (← readMark? '-' cs)
  some (⟨year, month, day⟩, cs)

/-- Reads what stands between a date and a time. -/
def readSeparator? : List Char → Option (List Char)
  | 'T' :: rest | 't' :: rest | ' ' :: rest => some rest
  | _ => none

/-- Reads a time as the second of a day and the nanoseconds in it; a second 60 is a leap second. -/
def readTime? (cs : List Char) : Option ((Nat × Nat) × List Char) := do
  let (hour, cs) ← readPart? 0 23 cs
  let (minute, cs) ← readPart? 0 59 (← readMark? ':' cs)
  let (second, cs) ← readPart? 0 60 (← readMark? ':' cs)
  let (fraction, cs) ← readFraction? cs
  let leap := if second = 60 then 1 else 0
  some ((hour * 3600 + minute * 60 + second - leap, fraction + leap * 1000000000), cs)

/-- Reads a date, a time and an offset. -/
def read? (text : String) : Option Instant := do
  let (date, cs) ← readDate? text.toList
  let ((second, nanosecond), cs) ← readTime? (← readSeparator? cs)
  let (offset, cs) ← readOffset? (skipBlank cs)
  if !(skipBlank cs).isEmpty || offset.natAbs ≥ 86400 || !decide date.IsValid then none
  else
    let seconds := second - offset
    let moved ← date.addDays? (seconds / 86400)
    some ⟨moved, (seconds % 86400).toNat, nanosecond⟩

end Instant

end ToolAssistant
