import ToolAssistant.Proofs.Arithmetic.Refusal

/-!
# How deep an expression may nest

The parser counts factors.  A factor is read for the operand of every sign, for every exponent, and
for what stands in parentheses; one more is read for the expression itself.  So an expression is
refused as too deep where a token lies inside `maxDepth` parentheses, signs and exponents: one fewer
than `maxDepth` are accepted, and exponents count like the others.

## Strategy

Every derivation of an expression can be had with as many nested factors as the tree calls for, and
with no fewer (`Derives.nesting_le`, `Derives.tighten`).  The parser accepts what is derived within
its bound, and an expression that it refuses is too deep, for nothing else is left
(`Matches.parse_or_exceeds`).
-/

namespace ToolAssistant.Arithmetic

/-! ## Levels -/

/-- How much deeper the right operand lies than the operator. -/
def BinaryOp.descent (exponents : Bool) : BinaryOp → Nat
  | .pow => if exponents then 1 else 0
  | _ => 0

/-- The symbols of a part that lies deeper than what is around it. -/
def lower (descent : Nat) (symbols : List (Symbol × Nat)) : List (Symbol × Nat) :=
  symbols.map fun place => (place.1, place.2 + descent)

/-- The symbols of an expression in the order of its text, each with the number of parentheses and
signs that it lies inside.  With `exponents`, the exponents that it lies in count too. -/
def Expr.levels (exponents : Bool) : Expr → List (Symbol × Nat)
  | .literal value => [(.number value, 0)]
  | .group inner =>
    (.mark .leftParen, 0) :: lower 1 (inner.levels exponents) ++ [(.mark .rightParen, 0)]
  | .unary op operand => (.mark op.token, 0) :: lower 1 (operand.levels exponents)
  | .binary op left right =>
    left.levels exponents ++
      (.mark op.token, 0) :: lower (op.descent exponents) (right.levels exponents)

/-- The deepest level of an expression. -/
def Expr.nesting (exponents : Bool) : Expr → Nat
  | .literal _ => 0
  | .group inner => inner.nesting exponents + 1
  | .unary _ operand => operand.nesting exponents + 1
  | .binary op left right =>
    max (left.nesting exponents) (right.nesting exponents + op.descent exponents)

/-- The levels are those of the symbols that the expression is written with. -/
theorem Expr.levels_symbols (exponents : Bool) (tree : Expr) :
    (tree.levels exponents).map Prod.fst = tree.flatten := by
  have hlower (descent : Nat) (symbols : List (Symbol × Nat)) :
      (lower descent symbols).map Prod.fst = symbols.map Prod.fst := by
    simp [lower]
  induction tree with
  | literal value => rfl
  | group inner ih => simp [levels, flatten, hlower, ih]
  | unary op operand ih => simp [levels, flatten, hlower, ih]
  | binary op left right ihLeft ihRight => simp [levels, flatten, hlower, ihLeft, ihRight]

private theorem exists_lower_iff {descent n : Nat} {symbols : List (Symbol × Nat)} :
    (∃ place ∈ lower descent symbols, n ≤ place.2) ↔ ∃ place ∈ symbols, n - descent ≤ place.2 := by
  constructor
  · rintro ⟨_, hplace, hdeep⟩
    obtain ⟨place, hmem, rfl⟩ := List.mem_map.mp hplace
    exact ⟨place, hmem, Nat.sub_le_of_le_add hdeep⟩
  · rintro ⟨place, hmem, hdeep⟩
    exact ⟨_, List.mem_map_of_mem hmem, Nat.le_add_of_sub_le hdeep⟩

/-- Some symbol lies as deep as the expression nests, and none lies deeper. -/
theorem Expr.exists_level_iff {exponents : Bool} {tree : Expr} {n : Nat} :
    (∃ place ∈ tree.levels exponents, n ≤ place.2) ↔ n ≤ tree.nesting exponents := by
  induction tree generalizing n with
  | literal value => simp [levels, nesting]
  | group inner ih =>
      simp only [levels, nesting, List.mem_append, List.mem_cons, List.not_mem_nil, or_false,
        or_and_right, exists_or, exists_eq_left, exists_lower_iff, ih]
      omega
  | unary op operand ih =>
      simp only [levels, nesting, List.mem_cons, or_and_right, exists_or, exists_eq_left,
        exists_lower_iff, ih]
      omega
  | binary op left right ihLeft ihRight =>
      simp only [levels, nesting, List.mem_append, List.mem_cons, or_and_right, exists_or,
        exists_eq_left, exists_lower_iff, ihLeft, ihRight]
      omega

/-- Exponents only add to the nesting. -/
theorem Expr.nesting_le (tree : Expr) : tree.nesting false ≤ tree.nesting true := by
  induction tree with
  | literal value => exact Nat.le_refl 0
  | group inner ih | unary _ inner ih => exact Nat.add_le_add_right ih 1
  | binary op left right ihLeft ihRight =>
      have hdescent : op.descent false ≤ op.descent true := by cases op <;> decide
      simp only [nesting]
      omega

/-! ## Nested factors -/

/-- The factors that a phrase is read in, beyond one for each level of its tree. -/
def Phrase.factors : Phrase → Nat
  | .expr | .term | .factor => 1
  | .power | .atom => 0

/-- Both operands of a chain lie where their operator lies. -/
private theorem nesting_chain {op : BinaryOp} (left right : Expr)
    (hop : op = .add ∨ op = .sub ∨ op = .mul ∨ op = .div ∨ op = .mod) (n bound : Nat) :
    (Expr.binary op left right).nesting true + n ≤ bound ↔
      left.nesting true + n ≤ bound ∧ right.nesting true + n ≤ bound := by
  have hdescent : op.descent true = 0 := by
    rcases hop with rfl | rfl | rfl | rfl | rfl <;> rfl
  rw [Expr.nesting, hdescent]
  omega

/-- An exponent lies deeper than its base, and is a factor of its own. -/
private theorem nesting_power (base exponent : Expr) (bound : Nat) :
    (Expr.binary .pow base exponent).nesting true + 0 ≤ bound ↔
      base.nesting true + 0 ≤ bound ∧ exponent.nesting true + 1 ≤ bound := by
  rw [Expr.nesting, BinaryOp.descent, if_pos rfl]
  omega

/-- No derivation nests fewer factors than its tree calls for. -/
theorem Derives.nesting_le {phrase : Phrase} {depth : Nat} {tokens : List Token} {tree : Expr}
    (hderives : Derives phrase depth tokens tree) :
    tree.nesting true + phrase.factors ≤ depth := by
  induction hderives with
  | term _ ih | factor _ ih | atom _ ih | parentheses _ ih => exact ih
  | sum _ hop _ ihLeft ihRight =>
      exact (nesting_chain _ _ (hop.imp_right Or.inl) _ _).mpr ⟨ihLeft, ihRight⟩
  | product _ hop _ ihLeft ihRight =>
      exact (nesting_chain _ _ (Or.inr (Or.inr hop)) _ _).mpr ⟨ihLeft, ihRight⟩
  | signed _ _ ih | power _ ih => exact Nat.succ_le_succ ih
  | raised _ _ ihBase ihExponent => exact (nesting_power _ _ _).mpr ⟨ihBase, ihExponent⟩
  | decimal text => exact Nat.zero_le _
  | integer text _ => exact Nat.zero_le _

/-- Every derivation can be had with no more nested factors than its tree calls for. -/
theorem Derives.tighten {phrase : Phrase} {depth bound : Nat} {tokens : List Token} {tree : Expr}
    (hderives : Derives phrase depth tokens tree)
    (hbound : tree.nesting true + phrase.factors ≤ bound) : Derives phrase bound tokens tree := by
  induction hderives generalizing bound with
  | term _ ih => exact .term (ih hbound)
  | sum _ hop _ ihLeft ihRight =>
      obtain ⟨hleft, hright⟩ := (nesting_chain _ _ (hop.imp_right Or.inl) _ _).mp hbound
      exact .sum (ihLeft hleft) hop (ihRight hright)
  | factor _ ih => exact .factor (ih hbound)
  | product _ hop _ ihLeft ihRight =>
      obtain ⟨hleft, hright⟩ := (nesting_chain _ _ (Or.inr (Or.inr hop)) _ _).mp hbound
      exact .product (ihLeft hleft) hop (ihRight hright)
  | signed op _ ih =>
      -- a sign uses up one of the factors, so the bound is the successor of the operand's
      obtain ⟨bound, rfl⟩ := Nat.exists_eq_add_of_le' (Nat.le_of_add_left_le hbound)
      exact .signed op (ih (Nat.le_of_succ_le_succ hbound))
  | power _ ih =>
      obtain ⟨bound, rfl⟩ := Nat.exists_eq_add_of_le' (Nat.le_of_add_left_le hbound)
      exact .power (ih (Nat.le_of_succ_le_succ hbound))
  | atom _ ih => exact .atom (ih hbound)
  | raised _ _ ihBase ihExponent =>
      obtain ⟨hbase, hexponent⟩ := (nesting_power _ _ _).mp hbound
      exact .raised (ihBase hbase) (ihExponent hexponent)
  | decimal text => exact .decimal text
  | integer text hfits => exact .integer text hfits
  | parentheses _ ih => exact .parentheses (ih hbound)

/-! ## Too deep -/

/-- The parser finds an expression too deep exactly when its nesting has reached the bound. -/
theorem parse_eq_tooDeep_iff {depth : Nat} {tokens : List Token} {tree : Expr}
    (hderives : Derives .expr depth tokens tree) :
    parse tokens = .error .tooDeep ↔ maxDepth ≤ tree.nesting true := by
  have haccepts : parse tokens = .ok tree ↔ tree.nesting true + 1 ≤ maxDepth := by
    rw [parse_iff_derives]
    exact ⟨fun hwithin => hwithin.nesting_le, fun hbound => hderives.tighten hbound⟩
  -- What is derived is at least matched, so nothing but its nesting or an integer can be at fault.
  rcases hderives.matches.parse_or_exceeds with ⟨other, hparse⟩ | ⟨error, hexceeds, hparse⟩
  · obtain rfl : other = tree := ((parse_iff_derives _ _).mp hparse).unique hderives
    have hbound := haccepts.mp hparse
    rw [hparse]
    exact iff_of_false (by simp) (by omega)
  · cases hexceeds with
    | nesting =>
        refine iff_of_true hparse (Nat.le_of_not_lt fun hbound => ?_)
        rw [haccepts.mpr hbound] at hparse
        cases hparse
    | size hmem hsize => exact absurd hsize (hderives.not_isOversized hmem)

theorem evaluate_eq_tooDeep_iff {text : String} {depth : Nat} {tokens : List Token} {tree : Expr}
    (hlength : text.utf8ByteSize ≤ maxLength) (htokens : tokenize text = .ok tokens)
    (hderives : Derives .expr depth tokens tree) :
    evaluate text = .error .tooDeep ↔ maxDepth ≤ tree.nesting true := by
  rw [evaluate_eq_error_iff hlength htokens, parse_eq_tooDeep_iff hderives, or_iff_left]
  rintro ⟨other, -, hvalue⟩
  have hrefused := Expr.value_refuses hvalue
  simp [operatorRefusals] at hrefused

/-! ## The main statement -/

/-- **How deep an expression may nest.**  An expression of the grammar that is not too long, and
whose integers have 128 bits, is refused as too deep exactly when one of its tokens lies inside
`maxDepth` or more parentheses, signs and exponents.  In particular it is refused where a token lies
inside more than `maxDepth` parentheses and signs. -/
theorem evaluate_nests {text : String} {depth : Nat} {tokens : List Token} {tree : Expr}
    (hlength : text.utf8ByteSize ≤ maxLength) (htokens : tokenize text = .ok tokens)
    (hderives : Derives .expr depth tokens tree) :
    (evaluate text = .error .tooDeep ↔ ∃ place ∈ tree.levels true, maxDepth ≤ place.2) ∧
      ((∃ place ∈ tree.levels false, maxDepth < place.2) → evaluate text = .error .tooDeep) ∧
      ∀ exponents, tokens.map Token.symbol? =
        (tree.levels exponents).map fun place => some place.1 := by
  rw [Expr.exists_level_iff, evaluate_eq_tooDeep_iff hlength htokens hderives]
  refine ⟨Iff.rfl, ?_, fun exponents => ?_⟩
  · intro hdeep
    have hnesting : maxDepth + 1 ≤ tree.nesting false := Expr.exists_level_iff.mp hdeep
    exact Nat.le_of_succ_le (Nat.le_trans hnesting tree.nesting_le)
  · rw [hderives.flatten, ← tree.levels_symbols exponents, List.map_map]
    rfl

/-- An expression in a number of parentheses. -/
def Expr.grouped (inner : Expr) : Nat → Expr
  | 0 => inner
  | n + 1 => .group (inner.grouped n)

/-- A text in a number of parentheses. -/
def groupedText (inner : String) (n : Nat) : String :=
  String.ofList (List.replicate n '(' ++ inner.toList ++ List.replicate n ')')

/-- Tokens in a number of parentheses. -/
def groupedTokens (inner : List Token) (n : Nat) : List Token :=
  List.replicate n .leftParen ++ inner ++ List.replicate n .rightParen

theorem Derives.grouped {depth : Nat} {tokens : List Token} {tree : Expr}
    (hderives : Derives .expr depth tokens tree) (n : Nat) :
    Derives .expr (depth + n) (groupedTokens tokens n) (tree.grouped n) := by
  induction n with
  | zero => simpa [groupedTokens, Expr.grouped] using hderives
  | succ n ih =>
      have htokens : groupedTokens tokens (n + 1) =
          .leftParen :: groupedTokens tokens n ++ [.rightParen] := by
        rw [groupedTokens, groupedTokens, List.replicate_succ, List.replicate_succ']
        simp
      rw [htokens]
      exact .term (.factor (.power (.atom (.parentheses ih))))

/-- In 62 parentheses, the exponent of `2 ** -1` and its sign make 64 levels. -/
theorem evaluate_nests_signed_exponent :
    let text := groupedText "2 ** -1" 62
    let tree : Expr := (Expr.binary .pow (.literal (.int 2))
      (.unary .neg (.literal (.int 1)))).grouped 62
    (∃ tokens depth, tokenize text = .ok tokens ∧ Derives .expr depth tokens tree) ∧
      (∀ place ∈ tree.levels false, place.2 < maxDepth) ∧
      evaluate text = .error .tooDeep := by
  intro text tree
  let inner : List Token := [.number "2" false, .doubleStar, .minus, .number "1" false]
  have htokens : tokenize text = .ok (groupedTokens inner 62) := by
    rw [tokenize, show text = groupedText "2 ** -1" 62 from rfl, groupedText, String.toList_ofList]
    decide +kernel
  have hinner : Derives .expr 3 inner
      (.binary .pow (.literal (.int 2)) (.unary .neg (.literal (.int 1)))) :=
    (exprOf_eq_ok_nil_iff 3 inner _).mp rfl
  have hderives := hinner.grouped 62
  refine ⟨⟨_, _, htokens, hderives⟩, by decide +kernel, ?_⟩
  exact (evaluate_nests (by decide +kernel) htokens hderives).1.mpr (by decide +kernel)

/-- Ones, each the exponent of the one before. -/
def tower : Nat → Expr
  | 0 => .literal (.int 1)
  | n + 1 => .binary .pow (.literal (.int 1)) (tower n)

/-- The text of a tower. -/
def towerText (n : Nat) : String :=
  String.ofList ('1' :: (List.replicate n ['*', '*', '1']).flatten)

/-- The tokens of a tower. -/
def towerTokens : Nat → List Token
  | 0 => [.number "1" false]
  | n + 1 => .number "1" false :: .doubleStar :: towerTokens n

theorem derives_tower (n : Nat) : Derives .factor (n + 1) (towerTokens n) (tower n) := by
  have hone (depth : Nat) : Derives .atom depth [.number "1" false] (.literal (.int 1)) :=
    literal_sound rfl
  induction n with
  | zero => exact .power (.atom (hone 0))
  | succ n ih => exact .power (.raised (hone _) ih)

/-- Nothing lies inside more than 64 parentheses in 64 of them, and nothing inside any in a tower of
65 ones, yet both are too deep. -/
theorem evaluate_refuses_allowed_nesting :
    (tokenize (groupedText "1" 64) = .ok (groupedTokens (towerTokens 0) 64) ∧
        Derives .expr 65 (groupedTokens (towerTokens 0) 64) ((tower 0).grouped 64) ∧
        (∀ place ∈ ((tower 0).grouped 64).levels false, place.2 ≤ maxDepth) ∧
        evaluate (groupedText "1" 64) = .error .tooDeep) ∧
      tokenize (towerText 64) = .ok (towerTokens 64) ∧
        Derives .expr 65 (towerTokens 64) (tower 64) ∧
        (∀ place ∈ (tower 64).levels false, place.2 = 0) ∧
        evaluate (towerText 64) = .error .tooDeep := by
  have hgrouped : tokenize (groupedText "1" 64) = .ok (groupedTokens (towerTokens 0) 64) := by
    rw [tokenize, groupedText, String.toList_ofList]
    decide +kernel
  have hone : Derives .expr 65 (groupedTokens (towerTokens 0) 64) ((tower 0).grouped 64) :=
    (Derives.term (.factor (derives_tower 0))).grouped 64
  have hpower : tokenize (towerText 64) = .ok (towerTokens 64) := by
    rw [tokenize, towerText, String.toList_ofList]
    decide +kernel
  have htower : Derives .expr 65 (towerTokens 64) (tower 64) :=
    .term (.factor (derives_tower 64))
  refine ⟨⟨hgrouped, hone, by decide +kernel, ?_⟩, hpower, htower, by decide +kernel, ?_⟩
  · exact (evaluate_eq_tooDeep_iff (by decide +kernel) hgrouped hone).mpr (by decide +kernel)
  · exact (evaluate_eq_tooDeep_iff (by decide +kernel) hpower htower).mpr (by decide +kernel)

end ToolAssistant.Arithmetic
