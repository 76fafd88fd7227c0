import Mathlib.Data.Int.Order.Basic
import Mathlib.Data.Prod.Lex
import Mathlib.Order.Compare

/-!
# The order of doubles

Doubles are compared by their sign, then by their exponent and last by their significand, and
something that is no number is not less than anything.  `place?` puts this on one line, so `<` on
doubles is a strict order (`lt_asymm`, `lt_trans`).
-/

namespace ToolAssistant.Double

open Float.Model

/-- The place of a double on a line: first its class, from the infinity on the left to the one on
the right, then its exponent and its significand, both with its sign. -/
def place? : UnpackedFloat → Option (ℤ ×ₗ ℤ ×ₗ ℤ)
  | .notANumber => none
  | .infinity .negative => some (toLex (-2, toLex (0, 0)))
  | .finite .negative m e _ => some (toLex (-1, toLex (-e, -m)))
  | .zero _ => some (toLex (0, toLex (0, 0)))
  | .finite .positive m e _ => some (toLex (1, toLex (e, m)))
  | .infinity .positive => some (toLex (2, toLex (0, 0)))

theorem unpacked_lt_iff (f g : UnpackedFloat) :
    f.lt g = true ↔ ∃ a b, place? f = some a ∧ place? g = some b ∧ a < b := by
  rcases f with (_ | _) | _ | _ | ⟨_ | _, m, e, hm⟩ <;>
    rcases g with (_ | _) | _ | _ | ⟨_ | _, m', e', hm'⟩ <;>
    dsimp only [UnpackedFloat.lt, UnpackedFloat.compare, place?] <;>
    simp [Prod.Lex.toLex_lt_toLex]
  -- Within a class of finite doubles, exponents and then significands decide.
  case infinity.negative.infinity.positive => rfl
  case finite.negative.finite.negative =>
    rw [Ordering.then_eq_gt, compare_gt_iff_gt, compare_eq_iff_eq, compare_gt_iff_gt]
  case finite.positive.finite.positive =>
    rw [Ordering.then_eq_lt, compare_lt_iff_lt, compare_eq_iff_eq, compare_lt_iff_lt]

theorem lt_iff (x y : Float) :
    x < y ↔ ∃ a b, place? x.toModel.unpack = some a ∧ place? y.toModel.unpack = some b ∧ a < b :=
  decide_eq_true_iff.trans (unpacked_lt_iff x.toModel.unpack y.toModel.unpack)

theorem lt_trans {x y z : Float} (hxy : x < y) (hyz : y < z) : x < z := by
  obtain ⟨a, b, ha, hb, hab⟩ := (lt_iff x y).mp hxy
  obtain ⟨b', c, hb', hc, hbc⟩ := (lt_iff y z).mp hyz
  obtain rfl : b = b' := Option.some.inj (hb.symm.trans hb')
  exact (lt_iff x z).mpr ⟨a, c, ha, hc, hab.trans hbc⟩

theorem lt_asymm {x y : Float} (hxy : x < y) : ¬y < x := by
  intro hyx
  obtain ⟨a, b, ha, hb, hab⟩ := (lt_iff x x).mp (lt_trans hxy hyx)
  obtain rfl : a = b := Option.some.inj (ha.symm.trans hb)
  exact lt_irrefl a hab

end ToolAssistant.Double
