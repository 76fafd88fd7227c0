import ToolAssistant.Proofs.Arithmetic.Refusal

/-!
# What a decimal literal promotes

With a decimal literal anywhere in a text, every literal is taken as a double before anything is
computed, so no operator and no sign can overflow.  But literals are read before that, and an
integer literal is read as one of 128 bits.  The main statement says that such a literal is all that
can overflow, and names what else a text with a decimal literal can come to.

## Strategy

The parser fails at its bounds alone (`Matches.parse_or_exceeds`), and what has been read has no
numeral beyond 128 bits.  Then promotion leaves doubles only, so what is refused is refused by an
operator on doubles (`Expr.value_refuses`).
-/

namespace ToolAssistant.Arithmetic

/-- A text with a decimal literal, once it is read, comes to a double or an operator refuses it. -/
theorem evaluate_of_hasPoint {text : String} {tokens : List Token} {tree : Expr}
    (hlength : text.utf8ByteSize ≤ maxLength) (htokens : tokenize text = .ok tokens)
    (hparse : parse tokens = .ok tree) (hpoint : HasPoint tokens) :
    (∃ x, evaluate text = .ok (.float x)) ∨
      ∃ error ∈ operatorRefusals, evaluate text = .error error := by
  have hpromoted : tree.hasFloat = true := (hasFloat_iff_hasPoint hparse).mpr hpoint
  cases hvalue : tree.value true with
  | ok value =>
      have hresult : evaluate text = .ok value := evaluate_eq_ok_iff.mpr
        ⟨hlength, tree, readTree_eq_ok_iff.mpr ⟨tokens, htokens, hparse⟩, hpromoted ▸ hvalue⟩
      cases value with
      | int n => cases Expr.value_promoted_isFloat hvalue
      | float x => exact Or.inl ⟨x, hresult⟩
  | error error =>
      have hresult : evaluate text = .error error :=
        (evaluate_eq_error_iff hlength htokens).mpr (Or.inr ⟨tree, hparse, hpromoted ▸ hvalue⟩)
      rcases Expr.value_refuses hvalue with hoperator | ⟨-, hinteger⟩
      · exact Or.inr ⟨error, hoperator, hresult⟩
      · cases hinteger

/-- **A decimal literal promotes what is computed, not what is read.**  A text that holds a decimal
literal and matches the grammar overflows exactly where it holds an integer literal beyond 128 bits,
unless it is refused as too long or too deep before that.  Otherwise it comes to a double, or it is
refused as too long, too deep, or by an operator on doubles. -/
theorem evaluate_promotes {text : String} {tokens : List Token}
    (htokens : tokenize text = .ok tokens) (hmatches : Matches .expr tokens)
    (hpoint : HasPoint tokens) :
    (evaluate text = .error .overflow ↔ (∃ token ∈ tokens, token.IsOversized) ∧
        evaluate text ≠ .error .tooLong ∧ evaluate text ≠ .error .tooDeep) ∧
      (evaluate text ≠ .error .overflow → (∃ x, evaluate text = .ok (.float x)) ∨
        ∃ error ∈ .tooLong :: .tooDeep :: operatorRefusals, evaluate text = .error error) := by
  by_cases hlength : text.utf8ByteSize ≤ maxLength
  · rcases hmatches.parse_or_exceeds with ⟨tree, hparse⟩ | ⟨error, hexceeds, hparse⟩
    · have hderives := (parse_iff_derives tokens tree).mp hparse
      have hfits : ¬ ∃ token ∈ tokens, token.IsOversized :=
        fun ⟨_, hmem, hsize⟩ => hderives.not_isOversized hmem hsize
      rcases evaluate_of_hasPoint hlength htokens hparse hpoint with
        ⟨x, hvalue⟩ | ⟨error, hoperator, hvalue⟩
      · rw [hvalue]
        exact ⟨iff_of_false (by simp) fun h => hfits h.1, fun _ => Or.inl ⟨x, rfl⟩⟩
      · rw [hvalue]
        refine ⟨iff_of_false ?_ fun h => hfits h.1,
          fun _ => Or.inr ⟨error, by simp [hoperator], rfl⟩⟩
        rintro ⟨rfl⟩
        revert hoperator
        decide
    · have hvalue : evaluate text = .error error :=
        (evaluate_eq_error_iff hlength htokens).mpr (Or.inl hparse)
      rw [hvalue]
      cases hexceeds with
      | nesting => simp
      | size hmem hsize => simpa using ⟨_, hmem, hsize⟩
  · have hvalue : evaluate text = .error .tooLong := by
      rw [evaluate, if_pos (Nat.lt_of_not_le hlength)]
    simp [hvalue]

private theorem matches_sum {first second : List Token} (hfirst : Matches .atom first)
    (hsecond : Matches .power second) : Matches .expr (first ++ .plus :: second) := by
  have hadd : BinaryOp.add = .add ∨ BinaryOp.add = .sub := Or.inl rfl
  exact .sum (.term (.factor (.power (.atom hfirst)))) hadd (.factor (.power hsecond))

/-- A power that overflows on its own does not overflow beside a decimal literal. -/
theorem evaluate_promotes_power :
    evaluate "2 ** 200" = .error .overflow ∧
      (∃ tokens, tokenize "0.5 + 2 ** 200" = .ok tokens ∧ Matches .expr tokens ∧ HasPoint tokens) ∧
      evaluate "0.5 + 2 ** 200" ≠ .error .overflow := by
  let power : List Token := [.number "2" false, .doubleStar, .number "200" false]
  let tokens : List Token := .number "0.5" true :: .plus :: power
  have hpower : tokenize "2 ** 200" = .ok power := by decide +kernel
  have htokens : tokenize "0.5 + 2 ** 200" = .ok tokens := by decide +kernel
  have hmatches : Matches .expr tokens :=
    matches_sum (.number "0.5" true)
      (.raised (.number "2" false) (.power (.atom (.number "200" false))))
  have hpoint : HasPoint tokens := ⟨"0.5", List.mem_cons_self⟩
  refine ⟨?_, ⟨tokens, htokens, hmatches, hpoint⟩, fun hoverflow => ?_⟩
  · exact (evaluate_eq_error_iff (by decide) hpower).mpr (Or.inr ⟨_, rfl, rfl⟩)
  · have hfits : ∀ token ∈ tokens, ¬ token.IsOversized := by decide +kernel
    obtain ⟨token, hmem, hsize⟩ := ((evaluate_promotes htokens hmatches hpoint).1.mp hoverflow).1
    exact hfits token hmem hsize

/-- The least integer literal beyond 128 bits overflows even beside a decimal literal. -/
theorem evaluate_large_literal_overflows :
    (∃ tokens, tokenize "1.0 + 170141183460469231731687303715884105728" = .ok tokens ∧
        Matches .expr tokens ∧ HasPoint tokens) ∧
      evaluate "1.0 + 170141183460469231731687303715884105728" = .error .overflow := by
  let tokens : List Token :=
    [.number "1.0" true, .plus, .number "170141183460469231731687303715884105728" false]
  have htokens : tokenize "1.0 + 170141183460469231731687303715884105728" = .ok tokens := by
    decide +kernel
  have hmatches : Matches .expr tokens :=
    matches_sum (.number "1.0" true) (.atom (.number _ false))
  refine ⟨⟨tokens, htokens, hmatches, "1.0", List.mem_cons_self⟩, ?_⟩
  exact (evaluate_eq_error_iff (by decide) htokens).mpr (Or.inl rfl)

end ToolAssistant.Arithmetic
