import ToolAssistant.Proofs.Arithmetic.Integers

/-!
# The remainder of integers

Of all remainders of two integers the evaluator gives the one with the sign of the divisor.  That
remainder is smaller than the divisor, so it has 128 bits whenever the divisor has.  Nevertheless
one pair is refused: the quotient of the least integer by `-1` does not fit, and the remainder is
taken together with the quotient.  The main statement says that this is the only such pair.

## Strategy

The evaluator corrects the truncated remainder to the floored one, which is the only remainder that
is small and has the right sign (`isFlooredRemainder_iff`).  That the operands have 128 bits is an
invariant of evaluation: literals are read so, and every operator sees to it
(`Expr.inRange_of_value`).
-/

namespace ToolAssistant.Arithmetic

/-! ## Floored remainders -/

/-- What is left over of `a` by `b`, with the sign of the divisor. -/
structure IsFlooredRemainder (a b r : Int) : Prop where
  dvd : b ∣ a - r
  small : r.natAbs < b.natAbs
  sign : r = 0 ∨ r.sign = b.sign

/-- A floored remainder lies between zero and the divisor. -/
private theorem small_and_sign_iff {b r : Int} :
    r.natAbs < b.natAbs ∧ (r = 0 ∨ r.sign = b.sign) ↔ 0 ≤ r ∧ r < b ∨ b < r ∧ r ≤ 0 := by
  rcases Int.lt_trichotomy b 0 with hneg | rfl | hpos
  · rw [Int.sign_eq_neg_one_iff_neg.mpr hneg, Int.sign_eq_neg_one_iff_neg]
    omega
  · omega
  · rw [Int.sign_eq_one_iff_pos.mpr hpos, Int.sign_eq_one_iff_pos]
    omega

private theorem fmod_between (a : Int) {b : Int} (hb : b ≠ 0) :
    0 ≤ Int.fmod a b ∧ Int.fmod a b < b ∨ b < Int.fmod a b ∧ Int.fmod a b ≤ 0 := by
  rcases Int.lt_or_gt_of_ne hb with hneg | hpos
  · have hflip : Int.fmod (-a) (-b) = -Int.fmod a b := Int.neg_fmod_neg a b
    have hnonneg := Int.fmod_nonneg_of_pos (-a) (Int.neg_pos_of_neg hneg)
    have hlt := Int.fmod_lt_of_pos (-a) (Int.neg_pos_of_neg hneg)
    omega
  · exact Or.inl ⟨Int.fmod_nonneg_of_pos a hpos, Int.fmod_lt_of_pos a hpos⟩

/-- There is one floored remainder. -/
theorem isFlooredRemainder_iff {a b r : Int} (hb : b ≠ 0) :
    IsFlooredRemainder a b r ↔ r = Int.fmod a b := by
  have hleft : b ∣ a - Int.fmod a b := ⟨Int.fdiv a b, by rw [Int.fmod_def]; omega⟩
  have hbetween := fmod_between a hb
  constructor
  · rintro ⟨hdvd, hsmall, hsign⟩
    have hr := small_and_sign_iff.mp ⟨hsmall, hsign⟩
    have hapart : b ∣ r - Int.fmod a b := by
      have hsub := Int.dvd_sub hleft hdvd
      rwa [show a - Int.fmod a b - (a - r) = r - Int.fmod a b by omega] at hsub
    -- Two numbers between zero and the divisor are less than the divisor apart.
    have hzero := Int.eq_zero_of_dvd_of_natAbs_lt_natAbs hapart (by omega)
    omega
  · rintro rfl
    obtain ⟨hsmall, hsign⟩ := small_and_sign_iff.mpr hbetween
    exact ⟨hleft, hsmall, hsign⟩

theorem inRange_fmod (a : Int) {b : Int} (hb : b ≠ 0) (hrange : InRange b) :
    InRange (Int.fmod a b) := by
  have hbetween := fmod_between a hb
  unfold InRange minInteger maxInteger at *
  omega

/-! ## Integers of an expression have 128 bits -/

theorem applyInt_inRange {op : BinaryOp} {a b n : Int} (happly : applyInt op a b = .ok (.int n)) :
    InRange n := by
  cases op <;> simp only [applyInt] at happly <;> (repeat' split at happly) <;>
    first
    | exact (exact_eq_int_iff.mp happly).2
    | exact absurd happly (finite_ne_int _ _)
    | cases happly

/-- A part of an expression has its literals from there. -/
theorem Expr.LiteralsInRange.of_mem_nodes {tree node : Expr} (hliterals : tree.LiteralsInRange)
    (hnode : node ∈ tree.nodes) : node.LiteralsInRange := by
  induction tree with
  | literal value =>
      obtain rfl := List.mem_singleton.mp hnode
      exact hliterals
  | group inner ih =>
      rcases List.mem_cons.mp hnode with rfl | hinner
      · exact hliterals
      · exact ih (fun n hn => hliterals n (by simp [flatten, hn])) hinner
  | unary op operand ih =>
      rcases List.mem_cons.mp hnode with rfl | hoperand
      · exact hliterals
      · exact ih (fun n hn => hliterals n (by simp [flatten, hn])) hoperand
  | binary op left right ihLeft ihRight =>
      rcases List.mem_cons.mp hnode with rfl | hpart
      · exact hliterals
      · rcases List.mem_append.mp hpart with hleft | hright
        · exact ihLeft (fun n hn => hliterals n (by simp [flatten, hn])) hleft
        · exact ihRight (fun n hn => hliterals n (by simp [flatten, hn])) hright

/-- **What comes to an integer comes to one of 128 bits.** -/
theorem Expr.inRange_of_value {tree : Expr} {promote : Bool} {n : Int}
    (hliterals : tree.LiteralsInRange) (hvalue : tree.value promote = .ok (.int n)) :
    InRange n := by
  induction tree generalizing n with
  | literal number =>
      cases promote with
      | true => cases hvalue
      | false =>
          cases hvalue
          exact hliterals n (by simp [flatten])
  | group inner ih => exact ih (fun m hm => hliterals m (by simp [flatten, hm])) hvalue
  | unary op operand ih =>
      obtain ⟨a, ha, hsign⟩ := bind_eq_ok.mp hvalue
      cases op with
      | plus =>
          cases hsign
          exact ih (fun m hm => hliterals m (by simp [flatten, hm])) ha
      | neg =>
          obtain ⟨m, -, -, hrange⟩ := applySign_neg_eq_int_iff.mp hsign
          exact hrange
  | binary op left right =>
      obtain ⟨a, -, hrest⟩ := bind_eq_ok.mp hvalue
      obtain ⟨b, -, happly⟩ := bind_eq_ok.mp hrest
      obtain ⟨m, k, -, -, hinteger⟩ := apply_eq_int_iff.mp happly
      exact applyInt_inRange hinteger

/-! ## The main statement -/

/-- The operator is refused for one pair, and otherwise gives the floored remainder. -/
theorem applyInt_mod {a b : Int} (ha : InRange a) (hb : b ≠ 0) (hrange : InRange b) :
    applyInt .mod a b =
      if a = minInteger ∧ b = -1 then .error .overflow else .ok (.int (Int.fmod a b)) := by
  by_cases hleast : a = minInteger ∧ b = -1
  · have hquotient : ¬ InRange (Int.tdiv a b) := fun hfits => (inRange_tdiv_iff ha).mp hfits hleast
    rw [if_pos hleast, applyInt, if_neg hb, if_pos hquotient]
  · have hquotient : InRange (Int.tdiv a b) := (inRange_tdiv_iff ha).mpr hleast
    rw [if_neg hleast, applyInt, if_neg hb, if_neg (not_not.mpr hquotient),
      flooredModulo_eq_fmod a hb, exact, if_pos (inRange_fmod a hb hrange)]

/-- **Integer remainders are floored, and one is refused.**  Where the operands of a remainder in a
text come to integers, and the divisor not to zero, there is exactly one floored remainder, and it
has 128 bits.  The remainder comes to it, unless the least integer is divided by `-1`; that is
refused as an overflow, though nothing is left over. -/
theorem value_remainder_floored {text : String} {tree left right : Expr} {promote : Bool}
    {a b : Int} (hread : readTree text = .ok tree) (hnode : .binary .mod left right ∈ tree.nodes)
    (hleft : left.value promote = .ok (.int a)) (hright : right.value promote = .ok (.int b))
    (hb : b ≠ 0) :
    ∃ r, (∀ s, IsFlooredRemainder a b s ↔ s = r) ∧ InRange r ∧
      (Expr.binary .mod left right).value promote =
        if a = minInteger ∧ b = -1 then .error .overflow else .ok (.int r) := by
  obtain ⟨tokens, -, htree⟩ := readTree_eq_ok_iff.mp hread
  have hliterals := (literalsInRange_of_parse htree).of_mem_nodes hnode
  have ha : InRange a :=
    Expr.inRange_of_value (fun n hn => hliterals n (by simp [Expr.flatten, hn])) hleft
  have hrange : InRange b :=
    Expr.inRange_of_value (fun n hn => hliterals n (by simp [Expr.flatten, hn])) hright
  refine ⟨Int.fmod a b, fun s => isFlooredRemainder_iff hb, inRange_fmod a hb hrange, ?_⟩
  calc (Expr.binary .mod left right).value promote
      = applyInt .mod a b := by
        simp only [Expr.value, hleft, hright, bind, Except.bind, apply]
    _ = _ := applyInt_mod ha hb hrange

/-- The least integer, as a text may spell it. -/
def leastInteger : Expr :=
  .group (.binary .sub (.unary .neg (.literal (.int maxInteger))) (.literal (.int 1)))

/-- The least integer by the greatest one leaves the greatest one less one. -/
theorem value_remainder_floored_least :
    let text :=
      "(-170141183460469231731687303715884105727 - 1) % 170141183460469231731687303715884105727"
    let divisor : Expr := .literal (.int maxInteger)
    readTree text = .ok (.binary .mod leastInteger divisor) ∧
      leastInteger.value false = .ok (.int minInteger) ∧
      divisor.value false = .ok (.int maxInteger) ∧
      (Expr.binary .mod leastInteger divisor).value false =
        .ok (.int 170141183460469231731687303715884105726) := by
  intro text divisor
  let tokens : List Token :=
    [.leftParen, .minus, .number "170141183460469231731687303715884105727" false, .minus,
      .number "1" false, .rightParen, .percent,
      .number "170141183460469231731687303715884105727" false]
  have htokens : tokenize text = .ok tokens := by decide +kernel
  have hread : readTree text = .ok (.binary .mod leastInteger divisor) :=
    readTree_eq_ok_iff.mpr ⟨tokens, htokens, rfl⟩
  have hleft : leastInteger.value false = .ok (.int minInteger) := rfl
  have hright : divisor.value false = .ok (.int maxInteger) := rfl
  obtain ⟨r, hunique, -, hvalue⟩ :=
    value_remainder_floored hread (Expr.self_mem_nodes _) hleft hright (by decide)
  have hr : 170141183460469231731687303715884105726 = r :=
    (hunique _).mp ⟨by decide, by decide, by decide⟩
  refine ⟨hread, hleft, hright, hvalue.trans ?_⟩
  rw [if_neg (by decide), hr]

/-- The least integer by `-1` leaves nothing over, but is refused. -/
theorem evaluate_remainder_of_least_overflows :
    let text := "(-170141183460469231731687303715884105727 - 1) % -1"
    let divisor : Expr := .unary .neg (.literal (.int 1))
    readTree text = .ok (.binary .mod leastInteger divisor) ∧
      leastInteger.value false = .ok (.int minInteger) ∧
      divisor.value false = .ok (.int (-1)) ∧
      IsFlooredRemainder minInteger (-1) 0 ∧ InRange 0 ∧
      (Expr.binary .mod leastInteger divisor).value false = .error .overflow ∧
      evaluate text = .error .overflow := by
  intro text divisor
  let tokens : List Token :=
    [.leftParen, .minus, .number "170141183460469231731687303715884105727" false, .minus,
      .number "1" false, .rightParen, .percent, .minus, .number "1" false]
  have htokens : tokenize text = .ok tokens := by decide +kernel
  have hread : readTree text = .ok (.binary .mod leastInteger divisor) :=
    readTree_eq_ok_iff.mpr ⟨tokens, htokens, rfl⟩
  have hvalue : (Expr.binary .mod leastInteger divisor).value false = .error .overflow := rfl
  refine ⟨hread, rfl, rfl, ⟨by decide, by decide, by decide⟩, by decide, hvalue, ?_⟩
  rw [evaluate, if_neg (by decide), htokens]
  exact hvalue

end ToolAssistant.Arithmetic
