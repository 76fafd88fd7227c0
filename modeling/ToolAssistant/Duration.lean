/-!
# Durations

A duration is a whole number of nanoseconds.  It is written in the largest of the units s, ms, µs
and ns in which it is at least one, with as many places as it needs.
-/

namespace ToolAssistant

/-- A length of time. -/
structure Duration where
  nanoseconds : Nat
  deriving DecidableEq, Repr

namespace Duration

instance : LE Duration := ⟨fun a b => a.nanoseconds ≤ b.nanoseconds⟩

instance (a b : Duration) : Decidable (a ≤ b) :=
  inferInstanceAs (Decidable (a.nanoseconds ≤ b.nanoseconds))

/-- No time at all. -/
def zero : Duration := ⟨0⟩

/-- So many seconds. -/
def ofSeconds (n : Nat) : Duration := ⟨n * 1000000000⟩

/-- So many milliseconds. -/
def ofMilliseconds (n : Nat) : Duration := ⟨n * 1000000⟩

/-- The decimal places of `part / 10 ^ places`, without trailing zeros and with a point in front if
there are any. -/
def placesText (part places : Nat) : String :=
  let digits := Nat.toDigits 10 part
  let padded := List.replicate (places - digits.length) '0' ++ digits
  let kept := (padded.reverse.dropWhile (· == '0')).reverse
  if kept.isEmpty then "" else String.ofList ('.' :: kept)

/-- The duration in units of `10 ^ places` nanoseconds. -/
def inUnit (d : Duration) (places : Nat) (unit : String) : String :=
  let size := Nat.pow 10 places
  toString (d.nanoseconds / size) ++ placesText (d.nanoseconds % size) places ++ unit

/-- The duration as a person reads it. -/
def text (d : Duration) : String :=
  if d.nanoseconds ≥ 1000000000 then d.inUnit 9 "s"
  else if d.nanoseconds ≥ 1000000 then d.inUnit 6 "ms"
  else if d.nanoseconds ≥ 1000 then d.inUnit 3 "µs"
  else d.inUnit 0 "ns"

end Duration

end ToolAssistant
