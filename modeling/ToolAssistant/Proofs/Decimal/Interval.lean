import Mathlib.Algebra.Order.Field.Power
import ToolAssistant.Proofs.Decimal.Integral

/-!
# Doubles between two bounds

A double that is compared with two finite ones, and lies between them, is finite.  For the bounds
that settings use, `value?_of_le` says so of the rational number that the double stands for: it lies
between zero and the other bound.

Doubles are compared by exponent first and by significand second.  That agrees with their values as
long as a significand has at most 53 bits, and 53 bits where the exponent is not the least
(`mul_two_zpow_le`).
-/

namespace ToolAssistant.Double

open Float.Model Float.Model.UnpackedFloat

/-- Is the sign a minus? -/
def isMinus : Sign → Bool
  | .negative => true
  | .positive => false

/-- A double is taken apart in two ways that say the same. -/
inductive SameParts : UnpackedFloat → Double → Prop where
  | infinity (sign : Sign) : SameParts (.infinity sign) (.infinite (isMinus sign))
  | notANumber : SameParts .notANumber .notANumber
  | zero (sign : Sign) : SameParts (.zero sign) (.finite (isMinus sign) 0 (-1074))
  | finite (sign : Sign) (m : ℕ) (e : ℤ) (hpositive : 0 < m) (hm : m < 2 ^ 53) :
      SameParts (.finite sign m e hpositive) (.finite (isMinus sign) m e)

/-! ## The two ways to take a double apart -/

private theorem toNat_unpackExponent (bits : UInt64) :
    (@unpackExponent Format.binary64 bits.toBitVec).toNat = bits.toNat / 2 ^ 52 % 2048 := by
  rw [unpackExponent, BitVec.toNat_cast, BitVec.extractLsb_toNat, Nat.shiftRight_eq_div_pow]
  rfl

private theorem toNat_unpackMantissa (bits : UInt64) :
    (@unpackMantissa Format.binary64 bits.toBitVec).toNat = bits.toNat % 2 ^ 52 := by
  rw [unpackMantissa, BitVec.toNat_cast, BitVec.extractLsb_toNat, Nat.shiftRight_zero]
  rfl

private theorem isMinus_unpackSign (bits : UInt64) :
    isMinus (.ofBitVec (@unpackSign Format.binary64 bits.toBitVec)) =
      (bits.toNat / 2 ^ 63 == 1) := by
  have hsign : (@unpackSign Format.binary64 bits.toBitVec).toNat = bits.toNat / 2 ^ 63 % 2 := by
    unfold unpackSign
    rw [BitVec.toNat_cast, BitVec.extractLsb_toNat, Nat.shiftRight_eq_div_pow]
    rfl
  have hbits : bits.toNat < 2 ^ 64 := bits.toNat_lt
  have hhalf : bits.toNat / 2 ^ 63 % 2 = bits.toNat / 2 ^ 63 := by omega
  simp only [Sign.ofBitVec, ← BitVec.toNat_inj, hsign, hhalf, BitVec.toNat_ofNat]
  have hcases : bits.toNat / 2 ^ 63 = 0 ∨ bits.toNat / 2 ^ 63 = 1 := by omega
  rcases hcases with hzero | hone
  · rw [hzero]
    rfl
  · rw [hone]
    rfl

/-- The bit that a full mantissa has in front. -/
private theorem toNat_one_append (mantissa : BitVec 52) :
    (1#1 ++ mantissa).toNat = 2 ^ 52 + mantissa.toNat := by
  rw [BitVec.toNat_append]
  exact (Nat.shiftLeft_add_eq_or_of_lt mantissa.isLt 1).symm

theorem sameParts_view (x : Float) : SameParts x.toModel.unpack (view x) := by
  have hbits : x.toBits = x.toModel.toBits := rfl
  unfold view Float.Model.unpack UnpackedFloat.unpack
  rw [hbits]
  generalize x.toModel.toBits = bits
  dsimp only
  rw [Nat.pow_eq, Nat.pow_eq, ← isMinus_unpackSign, ← toNat_unpackExponent, ← toNat_unpackMantissa]
  -- One side reads the exponent and the mantissa as words, the other as numbers.
  have hexponent {e : BitVec 11} : (@unpackExponent Format.binary64 bits.toBitVec).toNat = e.toNat ↔
      @unpackExponent Format.binary64 bits.toBitVec = e := BitVec.toNat_inj
  have hmantissa : (@unpackMantissa Format.binary64 bits.toBitVec).toNat = 0 ↔
      @unpackMantissa Format.binary64 bits.toBitVec = 0#52 := BitVec.toNat_inj (y := 0#52)
  have hlow : (@unpackMantissa Format.binary64 bits.toBitVec).toNat < 2 ^ 52 :=
    (@unpackMantissa Format.binary64 bits.toBitVec).isLt
  by_cases hones : @unpackExponent Format.binary64 bits.toBitVec = -1#11
  · have honesNat : (@unpackExponent Format.binary64 bits.toBitVec).toNat = 2047 :=
      hexponent.mpr hones
    rw [if_pos hones, if_pos honesNat]
    by_cases hnone : @unpackMantissa Format.binary64 bits.toBitVec = 0#52
    · rw [if_pos hnone, if_pos (hmantissa.mpr hnone)]
      exact .infinity _
    · rw [if_neg hnone, if_neg (mt hmantissa.mp hnone)]
      exact .notANumber
  · have honesNat : ¬(@unpackExponent Format.binary64 bits.toBitVec).toNat = 2047 :=
      mt (hexponent (e := -1#11)).mp hones
    rw [if_neg hones, if_neg honesNat]
    by_cases hleast : @unpackExponent Format.binary64 bits.toBitVec = 0#11
    · have hleastNat : (@unpackExponent Format.binary64 bits.toBitVec).toNat = 0 :=
        hexponent.mpr hleast
      rw [if_pos hleast, if_pos hleastNat]
      by_cases hnone : @unpackMantissa Format.binary64 bits.toBitVec = 0#52
      · rw [dif_pos hnone, hmantissa.mpr hnone]
        exact .zero _
      · rw [dif_neg hnone]
        -- The least exponent has no bit of its own.
        have hscale : ((@unpackExponent Format.binary64 bits.toBitVec).toNat : ℤ) -
            (Format.binary64.exponentBias + (52 : ℕ)) + 1 = -1074 := by
          rw [hleastNat]
          rfl
        rw [hscale]
        exact .finite _ _ _ _ (by omega)
    · have hleastNat : ¬(@unpackExponent Format.binary64 bits.toBitVec).toNat = 0 :=
        mt (hexponent (e := 0#11)).mp hleast
      rw [if_neg hleast, if_neg hleastNat]
      have hfull := toNat_one_append (@unpackMantissa Format.binary64 bits.toBitVec)
      rw [← hfull]
      exact .finite _ _ _ _ (by omega)

theorem value?_of_unpack_zero {x : Float} {sign : Sign} (hunpack : x.toModel.unpack = .zero sign) :
    value? x = some 0 := by
  have hparts := sameParts_view x
  rw [hunpack] at hparts
  generalize hview : view x = parts at hparts
  cases hparts
  rw [value?_of_view hview]
  cases isMinus sign <;> simp [signed]

theorem value?_of_unpack_positive {x : Float} {m : ℕ} {e : ℤ} {hpositive : 0 < m}
    (hunpack : x.toModel.unpack = .finite .positive m e hpositive) :
    m < 2 ^ 53 ∧ value? x = some ((m : ℚ) * 2 ^ e) := by
  have hparts := sameParts_view x
  rw [hunpack] at hparts
  generalize hview : view x = parts at hparts
  cases hparts with
  | finite _ _ _ _ hm =>
      refine ⟨hm, ?_⟩
      rw [value?_of_view hview]
      rfl

/-! ## Comparing -/

/-- Exponents and then significands are compared as the numbers are. -/
theorem mul_two_zpow_le {m n : ℕ} {e f : ℤ} (hm : m < 2 ^ 53) (hn : 2 ^ 52 ≤ n)
    (hle : ((compare e f).then (compare m n)).isLE = true) : (m : ℚ) * 2 ^ e ≤ n * 2 ^ f := by
  rcases lt_trichotomy e f with hlt | rfl | hgt
  · have hexponents : (53 : ℤ) + e ≤ 52 + f := by omega
    calc (m : ℚ) * 2 ^ e
        ≤ 2 ^ (53 : ℤ) * 2 ^ e := by
          gcongr
          exact_mod_cast hm.le
      _ = 2 ^ (53 + e) := (zpow_add₀ two_ne_zero 53 e).symm
      _ ≤ 2 ^ (52 + f) := zpow_le_zpow_right₀ one_le_two hexponents
      _ = 2 ^ (52 : ℤ) * 2 ^ f := zpow_add₀ two_ne_zero 52 f
      _ ≤ n * 2 ^ f := by
          gcongr
          exact_mod_cast hn
  · rw [compare_eq_iff_eq.mpr rfl, Ordering.eq_then, Nat.isLE_compare] at hle
    gcongr
  · rw [compare_gt_iff_gt.mpr hgt] at hle
    cases hle

private theorem le_iff (x y : Float) : x ≤ y ↔ x.toModel.unpack.le y.toModel.unpack = true :=
  decide_eq_true_iff

/-- **A double between zero and a finite bound stands for a number between them.** -/
theorem value?_of_between {x high : Float} {n : ℕ} {f : ℤ} {hpositive : 0 < n}
    (hhigh : high.toModel.unpack = .finite .positive n f hpositive) (hn : 2 ^ 52 ≤ n)
    (hlow : 0.0 ≤ x) (hle : x ≤ high) :
    ∃ value, value? x = some value ∧ 0 ≤ value ∧ value ≤ n * 2 ^ f := by
  have hzero : (0.0 : Float).toModel.unpack = .zero .positive := rfl
  rw [le_iff, hzero] at hlow
  rw [le_iff, hhigh] at hle
  cases hunpack : x.toModel.unpack with
  | notANumber =>
      rw [hunpack] at hlow
      cases hlow
  | infinity sign =>
      rw [hunpack] at hlow hle
      cases sign
      · cases hlow
      · cases hle
  | zero sign =>
      refine ⟨0, value?_of_unpack_zero hunpack, le_rfl, ?_⟩
      positivity
  | finite sign m e hm =>
      rw [hunpack] at hlow hle
      cases sign with
      | negative => cases hlow
      | positive =>
          obtain ⟨hbits, hvalue⟩ := value?_of_unpack_positive hunpack
          refine ⟨m * 2 ^ e, hvalue, ?_, mul_two_zpow_le hbits hn hle⟩
          positivity

end ToolAssistant.Double
