import Mathlib
import ToolAssistant.Decimal.Double

/-!
# When a double is finite

A double is infinite as soon as its exponent needs all the bits that there are for it.  This file
follows exponents through rounding and packing, and settles which decimal numbers are read as finite
doubles.

* A decimal number is read as a finite double exactly when it is below `overflowBound`, the middle
  between the largest double and the next power of two (`isFinite_ofScientific`); it is never read
  as something that is no number.
* A sign changes nothing about it (`isFinite_neg`).

## Strategy

`below_round` is the heart: a mantissa is cut to 53 bits and rounded, and only next to the largest
double does it matter how.  There the mantissa has all its bits set, so it is odd and the bit behind
it alone decides whether the exponent grows.
-/

namespace ToolAssistant.Double

open Float.Model Float.Model.UnpackedFloat

/-! ## Kinds of doubles -/

private theorem unpackExponent_eq_ones_iff (bits : UInt64) :
    @unpackExponent Format.binary64 bits.toBitVec = -1#_ ↔
      bits.toNat / 2 ^ 52 % 2048 = 2047 := by
  rw [← BitVec.toNat_inj, unpackExponent, BitVec.toNat_cast, BitVec.extractLsb_toNat,
    Nat.shiftRight_eq_div_pow]
  exact Iff.rfl

private theorem unpackMantissa_eq_zero_iff (bits : UInt64) :
    @unpackMantissa Format.binary64 bits.toBitVec = 0#_ ↔ bits.toNat % 2 ^ 52 = 0 := by
  rw [← BitVec.toNat_inj, unpackMantissa, BitVec.toNat_cast, BitVec.extractLsb_toNat,
    Nat.shiftRight_zero]
  exact Iff.rfl

/-- A double is finite exactly when its model is. -/
theorem isFinite_eq (x : Float) : isFinite x = x.isFinite := by
  have hexponent := unpackExponent_eq_ones_iff x.toModel.toBits
  have hmantissa := unpackMantissa_eq_zero_iff x.toModel.toBits
  have hbits : x.toBits = x.toModel.toBits := rfl
  unfold isFinite view Float.isFinite Float.Model.isFinite Float.Model.unpack UnpackedFloat.unpack
  simp only [hexponent, hmantissa, hbits, Nat.pow_eq]
  split_ifs <;> rfl

/-- A double is no number exactly when its model is none. -/
theorem view_eq_notANumber_iff (x : Float) : view x = .notANumber ↔ x.isNaN = true := by
  have hexponent := unpackExponent_eq_ones_iff x.toModel.toBits
  have hmantissa := unpackMantissa_eq_zero_iff x.toModel.toBits
  have hbits : x.toBits = x.toModel.toBits := rfl
  unfold view Float.isNaN Float.Model.isNaN Float.Model.unpack UnpackedFloat.unpack
  simp only [hexponent, hmantissa, hbits, Nat.pow_eq]
  split_ifs <;> simp [UnpackedFloat.isNaN]

/-- A finite double is a number. -/
theorem isNaN_of_isFinite {x : Float} (hfinite : x.isFinite = true) : x.isNaN = false := by
  unfold Float.isFinite Float.Model.isFinite at hfinite
  unfold Float.isNaN Float.Model.isNaN
  cases hkind : x.toModel.unpack with
  | notANumber =>
      rw [hkind] at hfinite
      cases hfinite
  | _ => rfl

/-! ## Packing -/

private theorem isFinite_unpack_iff (bits : BitVec Format.binary64.numBits) :
    (unpack Format.binary64 bits).isFinite = true ↔ unpackExponent bits ≠ -1#_ := by
  unfold UnpackedFloat.unpack
  dsimp only
  split_ifs <;> simp_all [UnpackedFloat.isFinite]

private theorem isNaN_unpack_iff (bits : BitVec Format.binary64.numBits) :
    (unpack Format.binary64 bits).isNaN = true ↔
      unpackExponent bits = -1#_ ∧ unpackMantissa bits ≠ 0#_ := by
  unfold UnpackedFloat.unpack
  dsimp only
  split_ifs <;> simp_all [UnpackedFloat.isNaN]

section Finite

variable {sign : Sign} {m : Nat} {e : Int} {hm : 0 < m}

/-- The biased exponent is past the last one of a finite double. -/
private theorem overflow_iff (e : Int) :
    2 ^ Format.binary64.exponentBits ≤
        (e + Format.binary64.exponentBias + Format.binary64.mantissaBitsWithoutImplicit).toNat + 1 ↔
      972 ≤ e := by
  show 2048 ≤ (e + 1023 + 52).toNat + 1 ↔ 972 ≤ e
  omega

private theorem pack_of_large (he : ¬e < 972) :
    UnpackedFloat.pack Format.binary64 (.finite sign m e hm) =
      packedInfinity Format.binary64 sign := by
  have hlarge := (overflow_iff e).mpr (Int.not_lt.mp he)
  simp only [UnpackedFloat.pack, hlarge, if_true]

private theorem unpackExponent_pack_ne_ones (he : e < 972) :
    unpackExponent (UnpackedFloat.pack Format.binary64 (.finite sign m e hm)) ≠ -1#_ := by
  have hsmall := mt (overflow_iff e).mp (Int.not_le.mpr he)
  have hbiased : (e + Format.binary64.exponentBias +
      Format.binary64.mantissaBitsWithoutImplicit).toNat % 2 ^ 11 ≠ 2047 := by
    show (e + 1023 + 52).toNat % 2 ^ 11 ≠ 2047
    omega
  simp only [UnpackedFloat.pack, hsmall, if_false]
  split_ifs
  · rw [unpackExponent_packComponents, Ne, ← BitVec.toNat_inj, BitVec.toNat_ofNat]
    exact hbiased
  · rw [unpackExponent_packComponents]
    decide

end Finite

/-- An unpacked double is zero or finite with an exponent below the bound. -/
def Below (bound : Int) : UnpackedFloat → Prop
  | .zero _ => True
  | .finite _ _ exponent _ => exponent < bound
  | .infinity _ => False
  | .notANumber => False

/-- Packing a double keeps it finite unless its exponent is too large. -/
theorem isFinite_pack (f : UnpackedFloat) :
    (Float.Model.pack f).isFinite = true ↔ Below 972 f := by
  unfold Float.Model.isFinite Float.Model.unpack Float.Model.pack
  rw [UInt64.toBitVec_ofBitVec, isFinite_unpack_iff]
  cases f with
  | notANumber => simp [UnpackedFloat.pack, packedNaN, Below]
  | infinity sign => simp [UnpackedFloat.pack, packedInfinity, Below]
  | zero sign => simp [UnpackedFloat.pack, packedZero, Below]
  | finite sign m e hm =>
      by_cases he : e < 972
      · exact iff_of_true (unpackExponent_pack_ne_ones he) he
      · rw [pack_of_large he, packedInfinity, unpackExponent_packComponents]
        simp [Below, he]

/-- Packing a number gives a number. -/
theorem isNaN_pack (f : UnpackedFloat) : (Float.Model.pack f).isNaN = f.isNaN := by
  rw [Bool.eq_iff_iff]
  unfold Float.Model.isNaN Float.Model.unpack Float.Model.pack
  rw [UInt64.toBitVec_ofBitVec, isNaN_unpack_iff]
  cases f with
  | notANumber => simp [UnpackedFloat.pack, packedNaN, UnpackedFloat.isNaN]
  | infinity sign => simp [UnpackedFloat.pack, packedInfinity, UnpackedFloat.isNaN]
  | zero sign => simp [UnpackedFloat.pack, packedZero, UnpackedFloat.isNaN]
  | finite sign m e hm =>
      by_cases he : e < 972
      · exact iff_of_false (fun h => unpackExponent_pack_ne_ones he h.1) Bool.false_ne_true
      · simp [pack_of_large he, packedInfinity, UnpackedFloat.isNaN]

/-! ## Rounding -/

private theorem mantissa_shiftRight (em : ExtendedMantissa) (n : Nat) :
    (em >>> n).mantissa = em.mantissa / 2 ^ n := by
  induction n with
  | zero => exact (Nat.div_one _).symm
  | succ n ih =>
      show (em >>> n).mantissa / 2 = _
      rw [ih, Nat.div_div_eq_div_mul, Nat.pow_succ]

private theorem roundBit_shiftRight (em : ExtendedMantissa) (n : Nat) :
    (em >>> (n + 1)).roundBit = (em.mantissa / 2 ^ n % 2 != 0) := by
  show ((em >>> n).mantissa % 2 != 0) = _
  rw [mantissa_shiftRight]

private theorem roundedMantissa_bounds (em : ExtendedMantissa) :
    em.mantissa ≤ em.roundedMantissa ∧ em.roundedMantissa ≤ em.mantissa + 1 := by
  obtain ⟨m, _ | _, _ | _⟩ := em <;>
    simp only [ExtendedMantissa.roundedMantissa, ExtendedMantissa.accuracy,
      Accuracy.roundToNearestEven] <;> omega

/-- An odd mantissa is rounded up exactly when the bit behind it is set. -/
private theorem roundedMantissa_of_odd {em : ExtendedMantissa} (hodd : em.mantissa % 2 = 1) :
    em.roundedMantissa = if em.roundBit then em.mantissa + 1 else em.mantissa := by
  obtain ⟨m, _ | _, _ | _⟩ := em <;>
    simp_all [ExtendedMantissa.roundedMantissa, ExtendedMantissa.accuracy,
      Accuracy.roundToNearestEven]

/-- How far a mantissa has to be shifted to be one of 53 bits. -/
private def shiftOf (m : Nat) (e : Int) : Nat :=
  (max ((m.log2 : Int) - 52) (-1074 - e)).toNat

private theorem shiftToTargetExponent_eq (m : Nat) (e : Int) (accuracy : Accuracy) :
    shiftToTargetExponent Format.binary64 m e accuracy =
      (ExtendedMantissa.ofMantissaAndAccuracy m accuracy >>> shiftOf m e,
        e + shiftOf m e) := by
  have hshift : (Format.binary64.targetExponent (totalExponent m e) - e).toNat = shiftOf m e := by
    show (max ((m.log2 : Int) + 1 + e - 53) (-1074) - e).toNat =
      (max ((m.log2 : Int) - 52) (-1074 - e)).toNat
    omega
  rw [shiftToTargetExponent, shiftToExponent, hshift]

section Rounding

variable (sign : Sign) (m : Nat) (e : Int) (accuracy : Accuracy)

/-- The mantissa after shifting it to 53 bits and rounding it. -/
private def roundedOf : Nat :=
  (ExtendedMantissa.ofMantissaAndAccuracy m accuracy >>> shiftOf m e).roundedMantissa

private theorem mantissa_ofMantissaAndAccuracy :
    (ExtendedMantissa.ofMantissaAndAccuracy m accuracy).mantissa = m := by
  rcases accuracy with _ | _ | _ | _ <;> rfl

private theorem roundedOf_bounds :
    m / 2 ^ shiftOf m e ≤ roundedOf m e accuracy ∧
      roundedOf m e accuracy ≤ m / 2 ^ shiftOf m e + 1 := by
  have hbounds := roundedMantissa_bounds
    (ExtendedMantissa.ofMantissaAndAccuracy m accuracy >>> shiftOf m e)
  rwa [mantissa_shiftRight, mantissa_ofMantissaAndAccuracy] at hbounds

private theorem div_shiftOf_lt : m / 2 ^ shiftOf m e < 2 ^ 53 := by
  have hlog : m.log2 + 1 ≤ 53 + shiftOf m e := by
    unfold shiftOf
    omega
  rw [Nat.div_lt_iff_lt_mul (Nat.two_pow_pos _), ← Nat.pow_add]
  exact Nat.lt_of_lt_of_le Nat.lt_log2_self (Nat.pow_le_pow_right (by decide) hlog)

/-- The shifted mantissa has all its 53 bits unless the double is subnormal. -/
private theorem two_pow_le_div_shiftOf (hshift : shiftOf m e + 52 = m.log2) :
    2 ^ 52 ≤ m / 2 ^ shiftOf m e := by
  have hm : m ≠ 0 := by
    rintro rfl
    simp at hshift
  rw [Nat.le_div_iff_mul_le (Nat.two_pow_pos _), ← Nat.pow_add, Nat.add_comm, hshift]
  exact Nat.log2_self_le hm

private theorem roundedOf_le : roundedOf m e accuracy ≤ 2 ^ 53 :=
  Nat.le_trans (roundedOf_bounds m e accuracy).2 (div_shiftOf_lt m e)

/-- Once rounded, a mantissa is shifted again only if it has one bit too many. -/
private theorem shiftOf_roundedOf :
    shiftOf (roundedOf m e accuracy) (e + shiftOf m e) =
      if roundedOf m e accuracy < 2 ^ 53 then 0 else 1 := by
  have hlowest : -1074 ≤ e + shiftOf m e := by
    unfold shiftOf
    omega
  split_ifs with hsmall
  · have hlog : (roundedOf m e accuracy).log2 ≤ 52 := by
      rcases Nat.eq_zero_or_pos (roundedOf m e accuracy) with hzero | hpos
      · rw [hzero]
        decide
      · exact Nat.le_of_lt_succ ((Nat.log2_lt hpos.ne').mpr hsmall)
    rw [shiftOf]
    omega
  · have hfull : roundedOf m e accuracy = 2 ^ 53 :=
      Nat.le_antisymm (roundedOf_le m e accuracy) (Nat.le_of_not_lt hsmall)
    rw [hfull, shiftOf, Nat.log2_two_pow]
    omega

/-- The exponent after rounding, counting the bit that rounding may add. -/
private def roundedExponent : Int :=
  e + shiftOf m e + (if roundedOf m e accuracy < 2 ^ 53 then 0 else 1 : Nat)

private theorem below_round_iff (bound : Int) :
    Below bound (roundWithAccuracy Format.binary64 sign m e accuracy) ↔
      roundedOf m e accuracy = 0 ∨ roundedExponent m e accuracy < bound := by
  have hcarry := shiftOf_roundedOf m e accuracy
  have hfirst : (ExtendedMantissa.ofMantissaAndAccuracy m accuracy >>>
      shiftOf m e).roundedMantissa = roundedOf m e accuracy := rfl
  have hvanishes : roundedOf m e accuracy /
      2 ^ shiftOf (roundedOf m e accuracy) (e + shiftOf m e) = 0 ↔ roundedOf m e accuracy = 0 := by
    have hle := roundedOf_le m e accuracy
    rw [hcarry]
    split_ifs <;> omega
  rw [roundedExponent, ← hcarry]
  simp only [roundWithAccuracy, shiftToTargetExponent_eq, hfirst, mantissa_shiftRight,
    mantissa_ofMantissaAndAccuracy]
  split_ifs with hzero
  · exact iff_of_true trivial (.inl (hvanishes.mp hzero))
  · exact (or_iff_right (mt hvanishes.mpr hzero)).symm

/-- Next to the largest double, the bit behind the mantissa decides whether it carries over. -/
private theorem roundedOf_lt_iff {places : Nat} (hshift : shiftOf m e = places + 1) :
    roundedOf m e accuracy < 2 ^ 53 ↔ m / 2 ^ places < 2 ^ 54 - 1 := by
  have hhalf : m / 2 ^ (places + 1) = m / 2 ^ places / 2 := by
    rw [Nat.pow_succ, Nat.div_div_eq_div_mul]
  have hlt := div_shiftOf_lt m e
  obtain ⟨hlow, hhigh⟩ := roundedOf_bounds m e accuracy
  rw [hshift, hhalf] at hlt hlow hhigh
  by_cases hfull : m / 2 ^ places / 2 = 2 ^ 53 - 1
  · have hmantissa : (ExtendedMantissa.ofMantissaAndAccuracy m accuracy >>> (places + 1)).mantissa =
        2 ^ 53 - 1 := by
      rw [mantissa_shiftRight, mantissa_ofMantissaAndAccuracy, hhalf, hfull]
    have hrounded := roundedMantissa_of_odd (congrArg (· % 2) hmantissa)
    rw [hmantissa, roundBit_shiftRight, mantissa_ofMantissaAndAccuracy] at hrounded
    rw [roundedOf, hshift, hrounded]
    rcases Nat.mod_two_eq_zero_or_one (m / 2 ^ places) with hbit | hbit
    · simp only [hbit, bne_self_eq_false, Bool.false_eq_true, if_false]
      omega
    · simp only [hbit, Nat.one_ne_zero, bne_iff_ne, ne_eq, not_false_eq_true, if_true]
      omega
  · omega

/-- **A double is rounded to a finite one exactly when it is below the middle between the largest
double and the next power of two.** -/
theorem below_round (he : e ≤ 970) :
    Below 972 (roundWithAccuracy Format.binary64 sign m e accuracy) ↔
      m < (2 ^ 54 - 1) * 2 ^ (970 - e).toNat := by
  obtain ⟨places, hplaces⟩ : ∃ places : Nat, (970 - e).toNat = places := ⟨_, rfl⟩
  have hbelow : m < 2 ^ (m.log2 + 1) := Nat.lt_log2_self
  rw [below_round_iff, roundedExponent, hplaces]
  -- A mantissa that is too short or too long settles it alone; in between its bits decide.
  rcases Nat.lt_trichotomy m.log2 (places + 53) with hsmall | hequal | hlarge
  · refine iff_of_true (.inr ?_) ?_
    · unfold shiftOf
      split_ifs <;> omega
    · calc m < 2 ^ (m.log2 + 1) := hbelow
        _ ≤ 2 ^ (53 + places) := Nat.pow_le_pow_right (by decide) (by omega)
        _ = 2 ^ 53 * 2 ^ places := Nat.pow_add ..
        _ ≤ (2 ^ 54 - 1) * 2 ^ places := Nat.mul_le_mul_right _ (by decide)
  · have hshift : shiftOf m e = places + 1 := by
      unfold shiftOf
      omega
    have hfull := two_pow_le_div_shiftOf m e (by omega)
    have hbounds := (roundedOf_bounds m e accuracy).1
    have hexponent : e + shiftOf m e = 971 := by omega
    rw [← Nat.div_lt_iff_lt_mul (Nat.two_pow_pos _), ← roundedOf_lt_iff m e accuracy hshift,
      hexponent]
    split_ifs with hcarry <;> omega
  · have hshift : shiftOf m e + 52 = m.log2 := by
      unfold shiftOf
      omega
    have hfull := two_pow_le_div_shiftOf m e hshift
    have hbounds := (roundedOf_bounds m e accuracy).1
    refine iff_of_false (by omega) (Nat.not_lt.mpr ?_)
    calc (2 ^ 54 - 1) * 2 ^ places ≤ 2 ^ 54 * 2 ^ places := Nat.mul_le_mul_right _ (by decide)
      _ = 2 ^ (54 + places) := (Nat.pow_add ..).symm
      _ ≤ 2 ^ m.log2 := Nat.pow_le_pow_right (by decide) (by omega)
      _ ≤ m := Nat.log2_self_le (by rintro rfl; simp at hshift)

/-- Rounding never gives more than one bit to a mantissa. -/
private theorem below_round_of_log2 {bound : Int} (hlog : m.log2 + e < bound + 51)
    (he : e < bound - 1) (hbound : -1073 < bound) :
    Below bound (roundWithAccuracy Format.binary64 sign m e accuracy) := by
  rw [below_round_iff, roundedExponent]
  refine .inr ?_
  unfold shiftOf
  split_ifs <;> omega

private theorem below_round_of_lt {places : Nat} (hm : m < 2 ^ places)
    (hplaces : places + e ≤ 970) :
    Below 972 (roundWithAccuracy Format.binary64 sign m e accuracy) := by
  rw [below_round _ _ _ _ (by omega)]
  calc m < 2 ^ places := hm
    _ ≤ 2 ^ (970 - e).toNat := Nat.pow_le_pow_right (by decide) (by omega)
    _ ≤ (2 ^ 54 - 1) * 2 ^ (970 - e).toNat := Nat.le_mul_of_pos_left _ (by decide)

private theorem isNaN_round :
    (roundWithAccuracy Format.binary64 sign m e accuracy).isNaN = false := by
  unfold roundWithAccuracy
  dsimp only
  split_ifs <;> rfl

end Rounding

/-! ## Unpacking -/

/-- The mantissa of an unpacked double has 53 bits. -/
private theorem mantissa_lt_of_unpack {bits : BitVec Format.binary64.numBits} {sign : Sign}
    {m : Nat} {e : Int} {hm : 0 < m} (hunpack : unpack Format.binary64 bits = .finite sign m e hm) :
    m < 2 ^ 53 := by
  have hlt : (unpackMantissa bits).toNat < 2 ^ 52 := (unpackMantissa bits).isLt
  unfold UnpackedFloat.unpack at hunpack
  dsimp only at hunpack
  split_ifs at hunpack
  · cases hunpack
    omega
  · cases hunpack
    exact (1#1 ++ unpackMantissa bits).isLt

/-- An unpacked double has the exponent that its bits say. -/
private theorem below_unpack {bound : Int} {bits : BitVec Format.binary64.numBits}
    (hones : unpackExponent bits ≠ -1#_) (hbound : -1074 < bound)
    (hexponent : (unpackExponent bits).toNat < bound + 1075) :
    Below bound (unpack Format.binary64 bits) := by
  unfold UnpackedFloat.unpack
  dsimp only
  split_ifs with hall hinfinite hzero hnone
  · exact absurd hall hones
  · exact absurd hall hones
  · trivial
  · have hnone : (unpackExponent bits).toNat = 0 := congrArg BitVec.toNat hzero
    show ((unpackExponent bits).toNat : Int) - (1023 + 52) + 1 < bound
    omega
  · show ((unpackExponent bits).toNat : Int) - (1023 + 52) < bound
    omega

/-- A finite double has an exponent that does not overflow. -/
private theorem below_unpack_of_isFinite {bits : BitVec Format.binary64.numBits}
    (hfinite : (unpack Format.binary64 bits).isFinite = true) :
    Below 972 (unpack Format.binary64 bits) := by
  have hones := (isFinite_unpack_iff bits).mp hfinite
  have hlast : (unpackExponent bits).toNat ≠ 2047 := fun h => hones (BitVec.eq_of_toNat_eq h)
  have hlt : (unpackExponent bits).toNat < 2048 := (unpackExponent bits).isLt
  exact below_unpack hones (by decide) (by omega)

/-- Packing does not raise the exponent. -/
private theorem below_unpack_pack {bound : Int} {f : UnpackedFloat} (hbound : -1074 < bound)
    (hlargest : bound ≤ 972) (hbelow : Below bound f) :
    Below bound (Float.Model.pack f).unpack := by
  unfold Float.Model.unpack Float.Model.pack
  rw [UInt64.toBitVec_ofBitVec]
  cases f with
  | notANumber => exact absurd hbelow id
  | infinity sign => exact absurd hbelow id
  | zero sign =>
      have hexponent : unpackExponent (UnpackedFloat.pack Format.binary64 (.zero sign)) = 0 :=
        unpackExponent_packComponents
      refine below_unpack ?_ hbound ?_ <;> rw [hexponent]
      · decide
      · show ((0 : Nat) : Int) < bound + 1075
        omega
  | finite sign m e hm =>
      have he : e < bound := hbelow
      have hsmall : e < 972 := Int.lt_of_lt_of_le he hlargest
      refine below_unpack (unpackExponent_pack_ne_ones hsmall) hbound ?_
      have hnoverflow := mt (overflow_iff e).mp (Int.not_le.mpr hsmall)
      simp only [UnpackedFloat.pack, hnoverflow, if_false]
      split_ifs
      · rw [unpackExponent_packComponents, BitVec.toNat_ofNat]
        show (((e + 1023 + 52).toNat % 2 ^ 11 : Nat) : Int) < bound + 1075
        omega
      · rw [unpackExponent_packComponents]
        show ((0 : Nat) : Int) < bound + 1075
        omega

/-! ## Signs -/

/-- A sign keeps a finite double finite. -/
theorem isFinite_neg (x : Float) : (-x).isFinite = x.isFinite := by
  have hpack : (-x).isFinite = (Float.Model.pack x.toModel.unpack.neg).isFinite := rfl
  have hsign (bound : Int) (f : UnpackedFloat) : Below bound f.neg ↔ Below bound f := by
    cases f <;> exact Iff.rfl
  rw [Bool.eq_iff_iff, hpack, isFinite_pack, hsign]
  constructor
  · intro hbelow
    show x.toModel.unpack.isFinite = true
    revert hbelow
    cases x.toModel.unpack <;> simp [Below, UnpackedFloat.isFinite]
  · exact below_unpack_of_isFinite

/-- A sign makes a number of every number. -/
theorem isNaN_neg (x : Float) : (-x).isNaN = x.isNaN := by
  have hpack : (-x).isNaN = (Float.Model.pack x.toModel.unpack.neg).isNaN := rfl
  have hunpack : x.isNaN = x.toModel.unpack.isNaN := rfl
  rw [hpack, isNaN_pack, hunpack]
  cases x.toModel.unpack <;> rfl

/-! ## Decimal numbers -/

private theorem Below.cases {bound : Int} {f : UnpackedFloat} (hbelow : Below bound f) :
    (∃ sign, f = .zero sign) ∨ ∃ sign m e hm, e < bound ∧ f = .finite sign m e hm := by
  cases f with
  | notANumber => exact absurd hbelow id
  | infinity sign => exact absurd hbelow id
  | zero sign => exact .inl ⟨sign, rfl⟩
  | finite sign m e hm => exact .inr ⟨sign, m, e, hm, hbelow, rfl⟩

/-- The double is finite, neither small nor large. -/
private def isModerate : UnpackedFloat → Bool
  | .finite _ _ exponent _ => decide (-52 ≤ exponent ∧ exponent < 23)
  | _ => false

private theorem cases_of_isModerate {f : UnpackedFloat} (hmoderate : isModerate f = true) :
    ∃ sign m e hm, (-52 ≤ e ∧ e < 23) ∧ f = .finite sign m e hm := by
  cases f with
  | finite sign m e hm => exact ⟨sign, m, e, hm, of_decide_eq_true hmoderate, rfl⟩
  | _ => exact absurd hmoderate Bool.false_ne_true

private theorem isModerate_powerOfTen : ∀ k : Fin 23,
    isModerate Float.exactlyRepresentablePowersOfTen[k].toModel.unpack = true := by
  decide +kernel

/-- An integer of 53 bits needs no exponent. -/
private theorem below_ofNat {n : Nat} (hn : n < 2 ^ 53) :
    Below 2 (UnpackedFloat.ofNat Format.binary64 n) := by
  unfold UnpackedFloat.ofNat UnpackedFloat.ofInt UnpackedFloat.normalize
  rcases Nat.eq_zero_or_pos n with rfl | hpos
  · trivial
  · have hcompare : compare (n : Int) 0 = .gt := Int.compare_eq_gt.mpr (by omega)
    have hlog : n.log2 < 53 := (Nat.log2_lt hpos.ne').mpr hn
    have htarget : Format.binary64.targetExponent (totalExponent n 0) = (n.log2 : Int) - 52 := by
      show max ((n.log2 : Int) + 1 + 0 - 53) (-1074) = _
      omega
    have hplaces : (0 - ((n.log2 : Int) - 52)).toNat = 52 - n.log2 := by omega
    have hshifted : (n <<< (52 - n.log2)).log2 < 53 := by
      rw [Nat.shiftLeft_eq]
      refine (Nat.log2_lt (Nat.mul_ne_zero hpos.ne' (Nat.two_pow_pos _).ne')).mpr ?_
      calc n * 2 ^ (52 - n.log2) < 2 ^ (n.log2 + 1) * 2 ^ (52 - n.log2) :=
            Nat.mul_lt_mul_of_pos_right Nat.lt_log2_self (Nat.two_pow_pos _)
        _ = 2 ^ 53 := by rw [← Nat.pow_add]; congr 1; omega
    rw [hcompare]
    simp only [UnpackedFloat.round, decreaseExponent, Int.toNat_natCast, htarget, hplaces]
    exact below_round_of_log2 _ _ _ _ (by omega) (by omega) (by decide)

private theorem below_toFloat {n : UInt64} (hn : n.toNat < 2 ^ 53) :
    Below 2 n.toFloat.toModel.unpack :=
  below_unpack_pack (by decide) (by decide) (below_ofNat hn)

private theorem below_div {a b : Float.Model} (ha : Below 2 a.unpack)
    (hb : isModerate b.unpack = true) :
    Below 972 (UnpackedFloat.div Format.binary64 a.unpack b.unpack) := by
  obtain ⟨s', m', e', hm', he', hright⟩ := cases_of_isModerate hb
  rcases ha.cases with ⟨s, hleft⟩ | ⟨s, m, e, hm, he, hleft⟩
  · rw [hleft, hright]
    trivial
  · have hmantissa : m < 2 ^ 53 := mantissa_lt_of_unpack hleft
    rw [hleft, hright]
    simp only [UnpackedFloat.div, divCore]
    generalize htarget : min (e - e') _ = target
    have hle : target ≤ e - e' := htarget ▸ Int.min_le_left ..
    have hquotient : m <<< (e - e' - target).toNat / m' < 2 ^ (53 + (e - e' - target).toNat) := by
      rw [Nat.shiftLeft_eq, Nat.pow_add]
      exact Nat.lt_of_le_of_lt (Nat.div_le_self ..)
        (Nat.mul_lt_mul_of_pos_right hmantissa (Nat.two_pow_pos _))
    exact below_round_of_lt _ _ _ _ hquotient (by omega)

/-- The least number that is rounded to an infinity: the middle between the largest double, which is
`(2 ^ 53 - 1) * 2 ^ 971`, and the next power of two. -/
@[irreducible]
def overflowBound : Nat := (2 ^ 54 - 1) * 2 ^ 970

-- The exponent is a variable here, so that nothing tries to compute the large power.
private theorem two_pow_le_mul (k : Nat) : 2 ^ 53 ≤ (2 ^ 54 - 1) * 2 ^ k :=
  Nat.le_trans (by decide) (Nat.le_mul_of_pos_right _ (Nat.two_pow_pos k))

private theorem two_pow_le_overflowBound : 2 ^ 53 ≤ overflowBound := by
  unfold overflowBound
  exact two_pow_le_mul 970

private theorem overflowBound_pos : 0 < overflowBound :=
  Nat.lt_of_lt_of_le (Nat.two_pow_pos 53) two_pow_le_overflowBound

private theorem mul_two_pow_add (k places : Nat) :
    (2 ^ 54 - 1) * 2 ^ (k + places) = (2 ^ 54 - 1) * 2 ^ k * 2 ^ places := by
  rw [Nat.pow_add, Nat.mul_assoc]

/-- A mantissa of so many binary places overflows from the bound on. -/
private theorem below_round_places (sign : Sign) (m places : Nat) (accuracy : Accuracy) :
    Below 972 (roundWithAccuracy Format.binary64 sign m (-(places : Int)) accuracy) ↔
      m < overflowBound * 2 ^ places := by
  have hplaces : (970 - -(places : Int)).toNat = 970 + places := by omega
  have hscale : (2 ^ 54 - 1) * 2 ^ (970 + places) = overflowBound * 2 ^ places := by
    unfold overflowBound
    exact mul_two_pow_add 970 places
  rw [below_round _ _ _ _ (by omega), hplaces, hscale]

/-- A product with one is rounded as the number itself. -/
private theorem below_mul_one (m : Nat) (hm : 0 < m <<< 53) (hone : 0 < 10 ^ 0) :
    Below 972 (UnpackedFloat.mul Format.binary64 (.finite .positive (m <<< 53) (-53) hm)
      (.finite .positive (10 ^ 0) 0 hone)) ↔ m < overflowBound := by
  simp only [UnpackedFloat.mul, Nat.pow_zero, Nat.mul_one, Int.add_zero, Nat.shiftLeft_eq]
  exact (below_round_places _ _ 53 _).trans (Nat.mul_lt_mul_right (Nat.two_pow_pos 53))

/-- A quotient of two integers overflows from the bound on. -/
private theorem below_div_ints {m d : Nat} (hm : 0 < m) (hd : 0 < d) :
    Below 972 (UnpackedFloat.div Format.binary64 (.finite .positive m 0 hm)
      (.finite .positive d 0 hd)) ↔ m < overflowBound * d := by
  simp only [UnpackedFloat.div, divCore]
  generalize htarget : min ((0 : Int) - 0) _ = target
  obtain ⟨places, rfl⟩ : ∃ places : Nat, target = -(places : Int) := by
    have hle : target ≤ 0 := htarget ▸ Int.min_le_left ..
    exact ⟨target.natAbs, by omega⟩
  have hplaces : ((0 : Int) - 0 - -(places : Int)).toNat = places := by omega
  rw [below_round_places, hplaces, Nat.div_lt_iff_lt_mul hd, Nat.shiftLeft_eq, Nat.mul_right_comm]
  exact Nat.mul_lt_mul_right (Nat.two_pow_pos _)

/-- A decimal number overflows from the bound on. -/
private theorem below_ofScientific (m k : Nat) :
    Below 972 (UnpackedFloat.ofScientific Format.binary64 m (Int.negOfNat k)) ↔
      m < overflowBound * 10 ^ k := by
  have hpower : 0 < 10 ^ k := Nat.pow_pos (by decide)
  rw [Int.negOfNat_eq]
  unfold UnpackedFloat.ofScientific
  split_ifs with hzero hlarge hsmall hinteger
  · exact iff_of_true trivial (hzero ▸ Nat.mul_pos overflowBound_pos hpower)
  · exact absurd hlarge (by simp)
  · have hplaces : m.log2 + 1 ≤ k := by
      have hsmall : -(k : Int) < -((2 : Int) ^ 11 + m.log2) := hsmall
      omega
    refine iff_of_true trivial ?_
    calc m < 2 ^ (m.log2 + 1) := Nat.lt_log2_self
      _ ≤ 2 ^ k := Nat.pow_le_pow_right (by decide) hplaces
      _ ≤ 10 ^ k := Nat.pow_le_pow_left (by decide) k
      _ ≤ overflowBound * 10 ^ k := Nat.le_mul_of_pos_left _ overflowBound_pos
  · obtain rfl : k = 0 := by simpa using hinteger
    rw [Nat.pow_zero, Nat.mul_one]
    exact below_mul_one m _ _
  · have htoNat : (- -Int.ofNat k).toNat = k := by simp
    simp only [htoNat]
    exact below_div_ints _ _

private theorem isNaN_of_below {bound : Int} {f : UnpackedFloat} (hbelow : Below bound f) :
    f.isNaN = false := by
  rcases hbelow.cases with ⟨sign, rfl⟩ | ⟨sign, m, e, hm, -, rfl⟩ <;> rfl

private theorem isNaN_unpackedOfScientific (m k : Nat) :
    (UnpackedFloat.ofScientific Format.binary64 m (Int.negOfNat k)).isNaN = false := by
  unfold UnpackedFloat.ofScientific
  split_ifs
  · rfl
  · rfl
  · rfl
  · exact isNaN_round ..
  · exact isNaN_round ..

/-- The quotient of an integer of 53 bits and a power of ten from the table. -/
private theorem below_fastDiv {m k : Nat} (hm : m < 2 ^ 53) (hk : k < 23) :
    Below 972 (UnpackedFloat.div Format.binary64 m.toUInt64.toFloat.toModel.unpack
      Float.exactlyRepresentablePowersOfTen[k].toModel.unpack) := by
  have htoNat : m.toUInt64.toNat = m := UInt64.toNat_ofNat_of_lt' (Nat.lt_trans hm (by decide))
  exact below_div (below_toFloat (htoNat.symm ▸ hm)) (isModerate_powerOfTen ⟨k, hk⟩)

/-- **A decimal number of `k` places is read as a finite double exactly when it is below the
bound.** -/
theorem isFinite_ofScientific (m k : Nat) :
    (Float.ofScientific m true k).isFinite = true ↔ m < overflowBound * 10 ^ k := by
  unfold Float.ofScientific
  by_cases hfast : m < 2 ^ 53 ∧ k ≤ 22
  · rw [dif_pos hfast]
    have hbelow := below_fastDiv hfast.1 (Nat.lt_succ_of_le hfast.2)
    have hlarge : 2 ^ 53 ≤ overflowBound * 10 ^ k :=
      Nat.le_trans two_pow_le_overflowBound
        (Nat.le_mul_of_pos_right _ (Nat.pow_pos (by decide)))
    exact iff_of_true ((isFinite_pack _).mpr hbelow) (Nat.lt_of_lt_of_le hfast.1 hlarge)
  · rw [dif_neg hfast]
    exact (isFinite_pack _).trans (below_ofScientific m k)

/-- A decimal number is read as a number. -/
theorem isNaN_ofScientific (m k : Nat) : (Float.ofScientific m true k).isNaN = false := by
  unfold Float.ofScientific
  by_cases hfast : m < 2 ^ 53 ∧ k ≤ 22
  · rw [dif_pos hfast]
    exact (isNaN_pack _).trans
      (isNaN_of_below (below_fastDiv hfast.1 (Nat.lt_succ_of_le hfast.2)))
  · rw [dif_neg hfast]
    exact (isNaN_pack _).trans (isNaN_unpackedOfScientific m k)

end ToolAssistant.Double
