/-!
# Ranges of code points

Character classes of the Unicode standard are given as lists of closed ranges in increasing order.
-/

namespace ToolAssistant.Text

/-- Does one of the closed ranges hold the character? -/
def inRanges (ranges : List (Nat × Nat)) (c : Char) : Bool :=
  ranges.any fun r => r.1 ≤ c.toNat && c.toNat ≤ r.2

theorem inRanges_iff {ranges : List (Nat × Nat)} {c : Char} :
    inRanges ranges c = true ↔ ∃ r ∈ ranges, r.1 ≤ c.toNat ∧ c.toNat ≤ r.2 := by
  simp [inRanges]

end ToolAssistant.Text
