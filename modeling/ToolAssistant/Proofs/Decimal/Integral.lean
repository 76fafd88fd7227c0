import Mathlib.Algebra.Field.Rat
import Mathlib.Data.Rat.Cast.CharZero
import Mathlib.Tactic.Positivity
import ToolAssistant.Decimal.Double

/-!
# Doubles that are integers

`Double.value?` is the rational number that a double stands for.  `toInteger?` looks at the
significand and the exponent instead, with a remainder where the exponent is negative;
`toInteger?_eq_some_iff` says that it finds an integer exactly when the value is one, and that one.
-/

namespace ToolAssistant.Double

/-- A significand with its sign. -/
def signed (negative : Bool) (n : ℕ) : ℤ :=
  if negative then -n else n

/-- The rational number that a double stands for. -/
def value? (x : Float) : Option ℚ :=
  match view x with
  | .finite negative significand exponent => some (signed negative significand * 2 ^ exponent)
  | _ => none

theorem signed_mul (negative : Bool) (m n : ℕ) :
    signed negative (m * n) = signed negative m * n := by
  cases negative <;> simp [signed]

theorem dvd_signed_iff (negative : Bool) (m n : ℕ) : (n : ℤ) ∣ signed negative m ↔ n ∣ m := by
  cases negative <;> simp [signed, Int.natCast_dvd_natCast]

/-- Where the exponent is negative, an integer value is a quotient without remainder. -/
theorem mul_two_zpow_neg_eq_iff (s n : ℤ) (k : ℕ) :
    (s : ℚ) * 2 ^ (-(k : ℤ)) = n ↔ s = n * 2 ^ k := by
  have hpositive : (2 : ℚ) ^ k ≠ 0 := by positivity
  rw [zpow_neg, zpow_natCast, mul_inv_eq_iff_eq_mul₀ hpositive]
  exact_mod_cast Iff.rfl

section View

variable {x : Float} {negative : Bool} {m : ℕ} {e : ℤ}

theorem toInteger?_of_view (hview : view x = .finite negative m e) :
    toInteger? x =
      if e ≥ 0 then some (signed negative (m * 2 ^ e.toNat))
      else if m % 2 ^ (-e).toNat = 0 then some (signed negative (m / 2 ^ (-e).toNat))
      else none := by
  rw [toInteger?, hview]
  rfl

theorem value?_of_view (hview : view x = .finite negative m e) :
    value? x = some ((signed negative m : ℚ) * 2 ^ e) := by
  rw [value?, hview]

end View

/-- **A double is taken for an integer exactly when its value is that integer.** -/
theorem toInteger?_eq_some_iff (x : Float) (n : ℤ) :
    toInteger? x = some n ↔ value? x = some (n : ℚ) := by
  cases hview : view x with
  | infinite negative => simp [toInteger?, value?, hview]
  | notANumber => simp [toInteger?, value?, hview]
  | finite negative m e =>
      rw [toInteger?_of_view hview, value?_of_view hview, Option.some.injEq]
      by_cases he : e ≥ 0
      · obtain ⟨k, rfl⟩ := Int.eq_ofNat_of_zero_le he
        have hvalue :
            (signed negative m : ℚ) * 2 ^ (k : ℤ) = (signed negative (m * 2 ^ k) : ℤ) := by
          rw [signed_mul, zpow_natCast]
          push_cast
          rfl
        rw [if_pos he, hvalue, Int.cast_inj, Option.some.injEq, Int.toNat_natCast]
      · obtain ⟨k, hk⟩ := Int.eq_ofNat_of_zero_le (a := -e) (by omega)
        obtain rfl : e = -(k : ℤ) := by omega
        rw [if_neg he, neg_neg, Int.toNat_natCast, mul_two_zpow_neg_eq_iff]
        split
        · next hremainder =>
            obtain ⟨quotient, rfl⟩ := Nat.dvd_of_mod_eq_zero hremainder
            have hpositive : 0 < 2 ^ k := Nat.two_pow_pos k
            have hscale : (2 : ℤ) ^ k ≠ 0 := by positivity
            rw [Nat.mul_div_cancel_left _ hpositive, mul_comm, signed_mul, Option.some.injEq]
            push_cast
            rw [mul_left_inj' hscale]
        · next hremainder =>
            refine iff_of_false (by simp) fun heq => hremainder ?_
            apply Nat.mod_eq_zero_of_dvd
            rw [← dvd_signed_iff negative, heq]
            push_cast
            exact dvd_mul_left _ _

end ToolAssistant.Double
