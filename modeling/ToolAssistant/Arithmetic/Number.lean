import ToolAssistant.Decimal.Layout
import ToolAssistant.Json.Basic

/-!
# Numbers of an expression

A number is an exact integer of 128 bits or a double.  Integers print as themselves; as data they
become a text where a 64-bit reader would lose digits.
-/

namespace ToolAssistant.Arithmetic

/-- The value of an expression. -/
inductive Number where
  | int (value : Int)
  | float (value : Float)

/-- Least and greatest integers of 128 bits. -/
def minInteger : Int := -170141183460469231731687303715884105728

@[inherit_doc minInteger]
def maxInteger : Int := 170141183460469231731687303715884105727

/-- Is the integer one of 128 bits? -/
def InRange (n : Int) : Prop :=
  minInteger ≤ n ∧ n ≤ maxInteger

instance (n : Int) : Decidable (InRange n) :=
  inferInstanceAs (Decidable (_ ∧ _))

/-- The size of an integer, as an integer of 128 bits.  That of the least one has no room, and comes
out as the least integer again. -/
def magnitude (n : Int) : Int :=
  if n = minInteger then minInteger else n.natAbs

namespace Number

/-- The number as a double. -/
def toFloat : Number → Float
  | int n => Double.ofInt n
  | float x => x

/-- Is the number a double? -/
def isFloat : Number → Bool
  | int _ => false
  | float _ => true

/-- The number as a person reads it. -/
def text : Number → String
  | int n => toString n
  | float x => Double.plainText x

/-- The number as data: exact integers beyond 64 bits, and doubles that are not finite, are given
as text. -/
def toJson : Number → Json
  | int n => if Json.fitsInt64 n then .ofInt n else .string (toString n)
  | float x => if Double.isFinite x then .ofFloat x else .string (Double.plainText x)

end Number

end ToolAssistant.Arithmetic
