import ToolAssistant.Decimal.Shortest

/-!
# Written forms of a double

Three layouts share the same digits.  `positional` never uses an exponent; `scientificBeyond` leaves
positional notation outside a band of exponents, with a sign on the exponent; `roundedScientific`
always has an exponent and a fixed number of places.
-/

namespace ToolAssistant.Decimal

/-- The digits of a number as text. -/
def digitText (n : Nat) : String :=
  String.ofList (Nat.toDigits 10 n)

/-- `count` zeros. -/
def zeros (count : Nat) : String :=
  String.ofList (List.replicate count '0')

/-- Cuts the digits after the first `n` and puts a point there. -/
def pointAfter (n : Nat) (digits : String) : String :=
  String.ofList (digits.toList.take n) ++ "." ++ String.ofList (digits.toList.drop n)

/-- The number without an exponent, and without a point if it is an integer. -/
def positional (d : Decimal) : String :=
  let digits := digitText d.digits
  if d.exponent ≥ 0 then digits ++ zeros d.exponent.toNat
  else if d.scale ≥ 0 then pointAfter (d.scale.toNat + 1) digits
  else "0." ++ zeros (-d.scale - 1).toNat ++ digits

/-- The number without an exponent, always with a point. -/
def pointed (d : Decimal) : String :=
  if d.exponent ≥ 0 then d.positional ++ ".0" else d.positional

/-- One digit, the other digits after a point if there are any. -/
def significandText (digits : String) : String :=
  if digits.length ≤ 1 then digits else pointAfter 1 digits

/-- The number with a point when its first digit stands for `10 ^ -5` up to `10 ^ 15`, and with a
signed exponent otherwise. -/
def scientificBeyond (d : Decimal) : String :=
  if -5 ≤ d.scale ∧ d.scale ≤ 15 then d.pointed
  else
    let sign := if d.scale < 0 then "-" else "+"
    significandText (digitText d.digits) ++ "e" ++ sign ++ digitText d.scale.natAbs

end ToolAssistant.Decimal

namespace ToolAssistant.Double

/-- A minus sign for a negative number. -/
def signText (negative : Bool) : String :=
  if negative then "-" else ""

/-- A double as data text has it, if it is a number at all; of two equally near decimals the even
one is written. -/
def dataText? (x : Float) : Option String :=
  match shortest .toEven x with
  | .decimal negative d => some (signText negative ++ d.scientificBeyond)
  | _ => none

/-- A double as a person reads it: never an exponent, and `.0` after an integer below `10 ^ 16`.  Of
two equally near decimals the larger one in magnitude is written. -/
def plainText (x : Float) : String :=
  match shortest .awayFromZero x with
  | .decimal negative d =>
    signText negative ++ if d.scale < 16 then d.pointed else d.positional
  | .infinite negative => signText negative ++ "inf"
  | .notANumber => "NaN"

/-- A double with one digit before the point, `places` after it, and an exponent. -/
def roundedScientific (places : Nat) (x : Float) : String :=
  match view x with
  | .finite negative 0 _ =>
    signText negative ++ Decimal.significandText (Decimal.zeros (places + 1)) ++ "e0"
  | .finite negative significand exponent =>
    let num := if exponent ≥ 0 then significand * Nat.pow 2 exponent.toNat else significand
    let den := if exponent ≥ 0 then 1 else Nat.pow 2 (-exponent).toNat
    let d := Decimal.roundToUnit num den (Decimal.leadingExponent num den - places)
    -- Rounding up to the next power of ten leaves one digit too many, a zero.
    let shown := if d.digits = Nat.pow 10 (places + 1) then ⟨d.digits / 10, d.exponent + 1⟩ else d
    signText negative ++ Decimal.significandText (Decimal.digitText shown.digits) ++ "e" ++
      signText (shown.scale < 0) ++ Decimal.digitText shown.scale.natAbs
  | .infinite negative => signText negative ++ "inf"
  | .notANumber => "NaN"

end ToolAssistant.Double
