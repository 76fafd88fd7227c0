import ToolAssistant.Decimal.Double

/-!
# The shortest decimal that reads back

Every finite double stands for an interval of reals that round to it, its ends included exactly
when the significand is even.  `shortest` finds a decimal in that interval with the fewest digits,
and among those the nearest to the double itself.  Where two decimals are equally near, a `Tie` rule
decides.

## Strategy

For one digit, two digits, and so on up to seventeen, the two neighbours of the value on that
decimal grid are tried in exact integer arithmetic.  If any point of a grid lies in the interval,
so does one of the two neighbours, so the first grid with a hit has the fewest digits.
-/

namespace ToolAssistant

/-- The decimal number `digits · 10 ^ exponent`. -/
structure Decimal where
  digits : Nat
  exponent : Int
  deriving DecidableEq, Repr

namespace Decimal

/-- Which of two equally near decimals is taken. -/
inductive Tie where
  | toEven
  | awayFromZero
  deriving DecidableEq, Repr

/-- Is the value, which lies `above / den` halves of a unit above the grid point `floor`, rounded
down to that point? -/
def Tie.roundsDown (tie : Tie) (floor above den : Nat) : Bool :=
  above < den || (above == den && tie == .toEven && floor % 2 == 0)

/-- How many decimal digits a number is written with. -/
def digitCount (n : Nat) : Nat :=
  (Nat.toDigits 10 n).length

/-- The exponent of the first digit in scientific notation. -/
def scale (d : Decimal) : Int :=
  d.exponent + digitCount d.digits - 1

/-- Moves trailing zeros of the digits into the exponent, at most `fuel` of them. -/
def stripZeros : Nat → Decimal → Decimal
  | 0, d => d
  | fuel + 1, d =>
    if d.digits ≠ 0 ∧ d.digits % 10 = 0 then stripZeros fuel ⟨d.digits / 10, d.exponent + 1⟩ else d

/-- The exponent of the first decimal digit of the positive ratio `num / den`. -/
def leadingExponent (num den : Nat) : Int :=
  if den ≤ num then digitCount (num / den) - 1
  else -(digitCount ((den + num - 1) / num - 1) : Int)

/-- The ratio `num / den` measured in units of `10 ^ exponent`. -/
def inUnits (num den : Nat) (exponent : Int) : Nat × Nat :=
  if exponent ≥ 0 then (num, den * Nat.pow 10 exponent.toNat)
  else (num * Nat.pow 10 (-exponent).toNat, den)

/-- The interval of reals that round to a double, over the common denominator `den`. -/
structure Rounding where
  low : Nat
  value : Nat
  high : Nat
  den : Nat
  closed : Bool

/-- The interval of the positive double `significand · 2 ^ exponent`.  The gap below a power of two
is half the gap above it. -/
def Rounding.ofParts (significand : Nat) (exponent : Int) : Rounding :=
  let below := if significand = Nat.pow 2 52 ∧ exponent > -1074 then 1 else 2
  let num (quarters : Nat) :=
    if exponent ≥ 2 then quarters * Nat.pow 2 (exponent - 2).toNat else quarters
  { low := num (4 * significand - below)
    value := num (4 * significand)
    high := num (4 * significand + 2)
    den := if exponent ≥ 2 then 1 else Nat.pow 2 (2 - exponent).toNat
    closed := significand % 2 == 0 }

/-- Does the decimal round to the double? -/
def Rounding.holds (r : Rounding) (d : Decimal) : Bool :=
  let (low, _) := inUnits r.low r.den d.exponent
  let (high, den) := inUnits r.high r.den d.exponent
  let here := d.digits * den
  if r.closed then low ≤ here && here ≤ high else low < here && here < high

/-- The nearest decimal with the given unit that rounds to the double, if there is one. -/
def Rounding.onGrid (r : Rounding) (tie : Tie) (exponent : Int) : Option Decimal :=
  let (value, den) := inUnits r.value r.den exponent
  let floor : Decimal := ⟨value / den, exponent⟩
  let ceiling : Decimal := ⟨value / den + 1, exponent⟩
  match r.holds floor, r.holds ceiling with
  | true, true =>
    if tie.roundsDown floor.digits (2 * (value % den)) den then some floor else some ceiling
  | true, false => some floor
  | false, true => some ceiling
  | false, false => none

/-- The shortest decimal for the positive double `significand · 2 ^ exponent`. -/
def shortestOfParts (tie : Tie) (significand : Nat) (exponent : Int) : Decimal :=
  let r := Rounding.ofParts significand exponent
  let first := leadingExponent r.value r.den
  let grids := (List.range 18).map fun (n : Nat) => first - n
  match grids.findSome? (r.onGrid tie) with
  | some d => stripZeros 20 d
  | none => ⟨significand, exponent⟩

/-- A number written with a unit of `10 ^ exponent`, a half going to the even neighbour. -/
def roundToUnit (num den : Nat) (exponent : Int) : Decimal :=
  let (value, den) := inUnits num den exponent
  let floor := value / den
  ⟨if Tie.toEven.roundsDown floor (2 * (value % den)) den then floor else floor + 1, exponent⟩

end Decimal

/-- A double as it is written: a sign and the shortest decimal, or one of the special values. -/
inductive DoubleText where
  | decimal (negative : Bool) (value : Decimal)
  | infinite (negative : Bool)
  | notANumber

/-- The shortest decimal of a double. -/
def Double.shortest (tie : Decimal.Tie) (x : Float) : DoubleText :=
  match Double.view x with
  | .finite negative 0 _ => .decimal negative ⟨0, 0⟩
  | .finite negative significand exponent =>
    .decimal negative (Decimal.shortestOfParts tie significand exponent)
  | .infinite negative => .infinite negative
  | .notANumber => .notANumber

end ToolAssistant
