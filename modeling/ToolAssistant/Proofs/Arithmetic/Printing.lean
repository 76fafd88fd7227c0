import ToolAssistant.Proofs.Arithmetic.Lexemes
import ToolAssistant.Proofs.Arithmetic.Refusal
import ToolAssistant.Proofs.Arithmetic.Remainder

/-!
# Printed integers are read back

An integer prints as its digits, behind a minus sign if it is negative.  When the text is read, the
sign is an operator and the digits are a literal of their own, and a literal has to fit 128 bits
without its sign.  The main statement says that every integer of 128 bits is read back as itself but
the least one, whose digits are those of the first number that does not fit.

## Strategy

One equation for each stage that the text goes through: its tokens (`tokenize_text`), their tree
(`parse_printedTokens`) and the value of the tree (`value_printedTree`).  The length of the text is
no obstacle, as 39 digits are enough for 128 bits.
-/

namespace ToolAssistant.Arithmetic

/-! ## Digits -/

theorem isNumeral_toDigits (m : Nat) : IsNumeral (Nat.toDigits 10 m) := by
  have hdigit : ∀ c ∈ Nat.toDigits 10 m, c.isDigit = true :=
    fun c hmem => Nat.isDigit_of_mem_toDigits (by decide) (by decide) hmem
  refine ⟨fun c hmem => Or.inl (hdigit c hmem), ?_, ?_⟩
  · have hpoint : '.' ∉ Nat.toDigits 10 m := fun hmem => absurd (hdigit '.' hmem) (by decide)
    rw [List.count_eq_zero_of_not_mem hpoint]
    exact Nat.zero_le 1
  · obtain ⟨first, rest, hdigits⟩ := List.exists_cons_of_ne_nil (Nat.toDigits_ne_nil (n := m))
    rw [hdigits] at hdigit ⊢
    exact ⟨first, List.mem_cons_self, hdigit first List.mem_cons_self⟩

/-- The token of a natural number. -/
def magnitudeToken (m : Nat) : Token :=
  .number (String.ofList (Nat.toDigits 10 m)) false

theorem magnitudeToken_wellFormed (m : Nat) : (magnitudeToken m).WellFormed := by
  refine ⟨?_, iff_of_false Bool.false_ne_true fun hmem => ?_⟩
  · rw [String.toList_ofList]
    exact isNumeral_toDigits m
  · rw [String.toList_ofList] at hmem
    exact absurd (Nat.isDigit_of_mem_toDigits (by decide) (by decide) hmem) (by decide)

theorem utf8Len_le (cs : List Char) : String.utf8Len cs ≤ 4 * cs.length := by
  induction cs with
  | nil => exact Nat.le_refl 0
  | cons c cs ih =>
      have hsize := c.utf8Size_le_four
      rw [String.utf8Len, List.length_cons]
      omega

/-! ## Tokens -/

/-- The tokens that an integer is printed with. -/
def printedTokens (n : Int) : List Token :=
  if n < 0 then [.minus, magnitudeToken n.natAbs] else [magnitudeToken n.natAbs]

theorem text_toList (n : Int) :
    (Number.int n).text.toList = (printedTokens n).flatMap Token.spelling := by
  rw [Number.text, Int.toString_eq_repr, Int.repr_eq_if, printedTokens]
  by_cases hneg : n < 0
  · rw [if_neg (Int.not_le.mpr hneg), if_pos hneg, String.toList_append,
      Nat.repr_eq_ofList_toDigits]
    have hmagnitude : (-n).toNat = n.natAbs := by omega
    simp [Token.spelling, magnitudeToken, hmagnitude]
  · rw [if_pos (Int.not_lt.mp hneg), if_neg hneg, Nat.repr_eq_ofList_toDigits]
    have hmagnitude : n.toNat = n.natAbs := by omega
    simp [Token.spelling, magnitudeToken, hmagnitude]

theorem scan_magnitude (m position : Nat) :
    scan position [] (magnitudeToken m).spelling = .ok [magnitudeToken m] := by
  have hscan := @scan_number _ _ (magnitudeToken_wellFormed m) [] (by simp) position
  rw [List.append_nil] at hscan
  exact hscan

theorem tokenize_text (n : Int) : tokenize (Number.int n).text = .ok (printedTokens n) := by
  rw [tokenize, text_toList, printedTokens]
  split
  · have hminus : Token.minus.IsMark := fun _ _ => Token.noConfusion
    rw [List.flatMap_cons, List.flatMap_singleton,
      scan_mark hminus (fun h => nomatch h) (fun h => nomatch h), scan_magnitude]
    rfl
  · rw [List.flatMap_singleton, scan_magnitude]

theorem text_short {n : Int} (hrange : InRange n) :
    (Number.int n).text.utf8ByteSize ≤ maxLength := by
  have hplaces : (Nat.toDigits 10 n.natAbs).length ≤ 39 := by
    refine (Nat.length_toDigits_le_iff (by decide) (by decide)).mpr ?_
    have hbound : n.natAbs ≤ 170141183460469231731687303715884105728 := by
      unfold InRange minInteger maxInteger at hrange
      omega
    exact Nat.lt_of_le_of_lt hbound (by decide)
  have hlength : (Number.int n).text.toList.length ≤ 40 := by
    rw [text_toList, printedTokens]
    split <;> simp [Token.spelling, magnitudeToken] <;> omega
  have hsize := utf8Len_le (Number.int n).text.toList
  rw [← String.utf8ByteSize_ofList, String.ofList_toList] at hsize
  unfold maxLength
  omega

/-! ## The tree and its value -/

/-- The tree of a printed integer. -/
def printedTree (n : Int) : Expr :=
  if n < 0 then .unary .neg (.literal (.int n.natAbs)) else .literal (.int n.natAbs)

theorem parse_printedTokens {n : Int} (hfits : (n.natAbs : Int) ≤ maxInteger) :
    parse (printedTokens n) = .ok (printedTree n) := by
  have hmagnitude (depth : Nat) :
      Derives .factor (depth + 1) [magnitudeToken n.natAbs] (.literal (.int n.natAbs)) := by
    have hvalue : Nat.ofDigitChars 10 (String.ofList (Nat.toDigits 10 n.natAbs)).toList 0 =
        n.natAbs := by
      rw [String.toList_ofList, Nat.ofDigitChars_ten_toDigits]
    have hatom := @Derives.integer depth _ (hvalue.symm ▸ hfits)
    rw [hvalue] at hatom
    exact .power (.atom hatom)
  refine (parse_iff_derives _ _).mpr (.term (.factor ?_))
  unfold printedTokens printedTree
  split
  · exact .signed .neg (hmagnitude 62)
  · exact hmagnitude 63

theorem value_printedTree {n : Int} (hrange : InRange n) :
    (printedTree n).value (printedTree n).hasFloat = .ok (.int n) := by
  unfold printedTree
  split
  · next hneg =>
      have hmagnitude : -(n.natAbs : Int) = n := by omega
      have hsign : applySign .neg (.int n.natAbs) = .ok (.int n) := by
        rw [applySign, hmagnitude, exact, if_pos hrange]
      exact hsign
  · next hnonneg =>
      have hmagnitude : (n.natAbs : Int) = n := by omega
      rw [hmagnitude]
      rfl

/-! ## The main statement -/

/-- The digits of the least integer are no literal, and its sign comes too late. -/
theorem parse_printedTokens_least : parse (printedTokens minInteger) = .error .overflow := by
  have htokens : printedTokens minInteger =
      [.minus, .number "170141183460469231731687303715884105728" false] := by decide +kernel
  rw [htokens]
  rfl

theorem evaluate_text {n : Int} (hrange : InRange n) :
    evaluate (Number.int n).text =
      if n = minInteger then .error .overflow else .ok (.int n) := by
  have hlength := text_short hrange
  split
  · next hleast =>
      subst hleast
      exact (evaluate_eq_error_iff hlength (tokenize_text _)).mpr (Or.inl parse_printedTokens_least)
  · next hother =>
      have hfits : (n.natAbs : Int) ≤ maxInteger := by
        unfold InRange minInteger maxInteger at *
        omega
      have hread : readTree (Number.int n).text = .ok (printedTree n) :=
        readTree_eq_ok_iff.mpr ⟨_, tokenize_text n, parse_printedTokens hfits⟩
      exact evaluate_eq_ok_iff.mpr ⟨hlength, _, hread, value_printedTree hrange⟩

/-- What a text comes to has 128 bits, if it is an integer. -/
theorem inRange_of_evaluate {text : String} {n : Int} (hvalue : evaluate text = .ok (.int n)) :
    InRange n := by
  obtain ⟨-, tree, hread, hresult⟩ := evaluate_eq_ok_iff.mp hvalue
  obtain ⟨tokens, -, htree⟩ := readTree_eq_ok_iff.mp hread
  exact Expr.inRange_of_value (literalsInRange_of_parse htree) hresult

/-- **A printed integer is read back as itself, unless it is the least one.**  So an integer that a
text comes to may be printed and evaluated again, as often as one likes.  The text of the least
integer is refused, because its literal is read without the sign and does not fit. -/
theorem evaluate_reads_printed :
    (∀ n, InRange n → evaluate (Number.int n).text =
        if n = minInteger then .error .overflow else .ok (.int n)) ∧
      ∀ text n, evaluate text = .ok (.int n) → n ≠ minInteger →
        evaluate (Number.int n).text = .ok (.int n) := by
  refine ⟨fun n hrange => evaluate_text hrange, fun text n hvalue hother => ?_⟩
  rw [evaluate_text (inRange_of_evaluate hvalue), if_neg hother]

/-- The greatest integer, and the least but one, which a power and a sum come to. -/
theorem evaluate_reads_printed_power :
    InRange maxInteger ∧
      evaluate (Number.int maxInteger).text = .ok (.int maxInteger) ∧
      evaluate "-(2 ** 126 - 1 + 2 ** 126)" = .ok (.int (-maxInteger)) ∧
      -maxInteger ≠ minInteger ∧
      (Number.int (-maxInteger)).text = "-170141183460469231731687303715884105727" ∧
      evaluate "-170141183460469231731687303715884105727" = .ok (.int (-maxInteger)) := by
  have hrange : InRange maxInteger := by decide
  have hother : -maxInteger ≠ minInteger := by decide
  have htext : (Number.int (-maxInteger)).text = "-170141183460469231731687303715884105727" := by
    decide +kernel
  have hvalue : evaluate "-(2 ** 126 - 1 + 2 ** 126)" = .ok (.int (-maxInteger)) := by
    have htokens : tokenize "-(2 ** 126 - 1 + 2 ** 126)" =
        .ok [.minus, .leftParen, .number "2" false, .doubleStar, .number "126" false, .minus,
          .number "1" false, .plus, .number "2" false, .doubleStar, .number "126" false,
          .rightParen] := by decide +kernel
    rw [evaluate, if_neg (by decide), htokens]
    rfl
  refine ⟨hrange, ?_, hvalue, hother, htext, ?_⟩
  · rw [evaluate_reads_printed.1 maxInteger hrange, if_neg (by decide)]
  · rw [← htext]
    exact evaluate_reads_printed.2 _ _ hvalue hother

/-- The least integer is a result, but its text is refused. -/
theorem evaluate_text_of_least_overflows :
    evaluate "-170141183460469231731687303715884105727 - 1" = .ok (.int minInteger) ∧
      InRange minInteger ∧
      (Number.int minInteger).text = "-170141183460469231731687303715884105728" ∧
      evaluate (Number.int minInteger).text = .error .overflow := by
  have htokens : tokenize "-170141183460469231731687303715884105727 - 1" =
      .ok [.minus, .number "170141183460469231731687303715884105727" false, .minus,
        .number "1" false] := by decide +kernel
  have hrange : InRange minInteger := by decide
  refine ⟨?_, hrange, by decide +kernel, ?_⟩
  · rw [evaluate, if_neg (by decide), htokens]
    rfl
  · rw [evaluate_text hrange, if_pos rfl]

end ToolAssistant.Arithmetic
