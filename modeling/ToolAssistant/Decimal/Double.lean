/-!
# The exact value of a double

`Double.view` takes a double apart into a sign, a significand and a binary exponent, so that
everything said about printing, rounding and remainders is said about integers.  `Double.ofParts`
goes the other way, for values that a double holds exactly.
-/

namespace ToolAssistant

/-- What a double stands for: `± significand · 2 ^ exponent`, an infinity, or no number. -/
inductive Double where
  | finite (negative : Bool) (significand : Nat) (exponent : Int)
  | infinite (negative : Bool)
  | notANumber
  deriving DecidableEq, Repr

namespace Double

/-- Takes a double apart. -/
def view (x : Float) : Double :=
  let bits := x.toBits.toNat
  let negative := bits / Nat.pow 2 63 == 1
  let scale := bits / Nat.pow 2 52 % 2048
  let fraction := bits % Nat.pow 2 52
  if scale = 2047 then
    if fraction = 0 then .infinite negative else .notANumber
  else if scale = 0 then .finite negative fraction (-1074)
  else .finite negative (Nat.pow 2 52 + fraction) (Int.ofNat scale - 1075)

/-- The double `± significand · 2 ^ exponent`, for a significand below `2 ^ 53` and an exponent of
at least `-1074` whose value is in range. -/
def ofParts (negative : Bool) (significand : Nat) (exponent : Int) : Float :=
  let shift := min (52 - significand.log2) (exponent + 1074).toNat
  let m := significand * Nat.pow 2 shift
  let magnitude :=
    if m < Nat.pow 2 52 then m else (exponent - shift + 1074).toNat * Nat.pow 2 52 + m
  Float.ofBits ((if negative then Nat.pow 2 63 else 0) + magnitude).toUInt64

/-- Is the double neither infinite nor not a number? -/
def isFinite (x : Float) : Bool :=
  match view x with
  | .finite .. => true
  | _ => false

/-- The integer that a double stands for, if it stands for one. -/
def toInteger? (x : Float) : Option Int :=
  match view x with
  | .finite negative significand exponent =>
    let signed (n : Nat) : Int := if negative then -n else n
    if exponent ≥ 0 then some (signed (significand * Nat.pow 2 exponent.toNat))
    else if significand % Nat.pow 2 (-exponent).toNat = 0 then
      some (signed (significand / Nat.pow 2 (-exponent).toNat))
    else none
  | _ => none

/-- Has the double no fractional part? -/
def isIntegral (x : Float) : Bool :=
  (toInteger? x).isSome

/-- Puts a minus sign on a double that has none. -/
def withSign (negative : Bool) (x : Float) : Float :=
  if negative then -x else x

/-- The double nearest to an integer, ties to the even significand. -/
def ofInt (n : Int) : Float :=
  withSign (n < 0) (Float.ofScientific n.natAbs false 0)

/-- The remainder of a division that truncates, exact and with the sign of the dividend, for a
finite dividend and a divisor that is finite and not zero. -/
def truncatedRemainder (a b : Float) : Float :=
  match view a, view b with
  | .finite negative m p, .finite _ n q =>
    -- On the finer of the two grids both are integers, and the remainder is below `2 ^ 53`.
    let grid := min p q
    ofParts negative ((m * Nat.pow 2 (p - grid).toNat) % (n * Nat.pow 2 (q - grid).toNat)) grid
  | _, _ => a

end Double

end ToolAssistant
