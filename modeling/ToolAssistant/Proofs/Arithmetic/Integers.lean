import Mathlib.Algebra.Group.Int.Defs
import ToolAssistant.Arithmetic.Evaluate
import ToolAssistant.Proofs.Arithmetic.Grammar

/-!
# Integer results are exact

An expression without a decimal point has an integer value exactly when computing it over the
unbounded integers succeeds and stays within 128 bits at every node; the value is then that of the
root.  With a decimal point in the text every value is a double.

The exact computation is `Expr.integer?`: a quotient exists only where nothing is left over, the
remainder is the floored one, and exponents run from `0` to `maxExponent`.  Two operations leave 128
bits on the way, and `Expr.StaysWithin` leaves them out: the remainder of the least integer by `-1`
fits, but not the quotient that goes with it, and the least integer as an exponent has no size.

## Strategy

A double never turns back into an integer, so an operator gives an integer only on two integers, and
there `applyInt_eq_int_iff` settles each operator at the ends of the range.  What is left is an
induction over the tree.  Whether literals are promoted is decided by the text: the scanner makes a
dotted number exactly where there is a point, and the tree is written with the same numbers as the
text.
-/

namespace ToolAssistant.Arithmetic

/-! ## Exact values -/

/-- What an operator comes to on unbounded integers. -/
def BinaryOp.integer? (op : BinaryOp) (a b : Int) : Option Int :=
  match op with
  | .add => some (a + b)
  | .sub => some (a - b)
  | .mul => some (a * b)
  | .div => if b ≠ 0 ∧ b ∣ a then some (a / b) else none
  | .mod => if b ≠ 0 then some (a - b * Int.fdiv a b) else none
  | .pow => if 0 ≤ b ∧ b ≤ maxExponent then some (a ^ b.toNat) else none

/-- What an expression comes to over the unbounded integers. -/
def Expr.integer? : Expr → Option Int
  | .literal (.int n) => some n
  | .literal (.float _) => none
  | .group inner => inner.integer?
  | .unary .plus operand => operand.integer?
  | .unary .neg operand => operand.integer?.map (- ·)
  | .binary op left right => do op.integer? (← left.integer?) (← right.integer?)

/-- The nodes of an expression, itself first. -/
def Expr.nodes : Expr → List Expr
  | .literal value => [.literal value]
  | .group inner => .group inner :: inner.nodes
  | .unary op operand => .unary op operand :: operand.nodes
  | .binary op left right => .binary op left right :: (left.nodes ++ right.nodes)

/-- Every node comes to an integer of 128 bits, and the root to `n`. -/
def Expr.IsExactly (tree : Expr) (n : Int) : Prop :=
  tree.integer? = some n ∧ ∀ node ∈ tree.nodes, ∃ m, node.integer? = some m ∧ InRange m

/-- No operation in the expression goes beyond 128 bits on the way to its result. -/
structure Expr.StaysWithin (tree : Expr) : Prop where
  /-- No remainder divides the least integer by `-1`. -/
  remainder : ∀ left right, .binary .mod left right ∈ tree.nodes →
    ¬ (left.IsExactly minInteger ∧ right.IsExactly (-1))
  /-- No exponent is the least integer. -/
  exponent : ∀ left right, .binary .pow left right ∈ tree.nodes → ¬ right.IsExactly minInteger

theorem Expr.self_mem_nodes (tree : Expr) : tree ∈ tree.nodes := by
  cases tree <;> simp [Expr.nodes]

theorem Expr.IsExactly.inRange {tree : Expr} {n : Int} (hexact : tree.IsExactly n) : InRange n := by
  obtain ⟨m, hm, hrange⟩ := hexact.2 tree tree.self_mem_nodes
  rw [hexact.1, Option.some.injEq] at hm
  exact hm ▸ hrange

theorem Expr.StaysWithin.mono {tree part : Expr} (hwithin : tree.StaysWithin)
    (hpart : part.nodes ⊆ tree.nodes) : part.StaysWithin where
  remainder left right hnode := hwithin.remainder left right (hpart hnode)
  exponent left right hnode := hwithin.exponent left right (hpart hnode)

/-! ## Operators on integers -/

theorem exact_eq_int_iff {m n : Int} : exact m = .ok (.int n) ↔ m = n ∧ InRange n := by
  unfold exact
  split
  · next hrange =>
      simp only [Except.ok.injEq, Number.int.injEq]
      exact ⟨fun heq => ⟨heq, heq ▸ hrange⟩, And.left⟩
  · next hrange =>
      simp only [reduceCtorEq, false_iff, not_and]
      exact fun heq => heq ▸ hrange

theorem finite_ne_int (x : Float) (n : Int) : finite x ≠ .ok (.int n) := by
  unfold finite
  split <;> simp

/-- Moving a truncated remainder to the sign of the divisor gives the floored one. -/
theorem flooredModulo_eq_fmod (a : Int) {b : Int} (hb : b ≠ 0) :
    flooredModulo a b = Int.fmod a b := by
  have hnonneg := Int.emod_nonneg a hb
  have hlt := Int.emod_lt a hb
  have hdvd : b ∣ a ↔ a % b = 0 := Int.dvd_iff_emod_eq_zero
  simp only [flooredModulo, Int.fmod_eq_emod, Int.tmod_eq_emod, hdvd, Bool.and_eq_true, bne_iff_ne,
    ne_eq, decide_eq_decide]
  split_ifs <;> omega

/-- The only quotient that does not fit is that of the least integer by `-1`. -/
theorem inRange_tdiv_iff {a b : Int} (ha : InRange a) :
    InRange (Int.tdiv a b) ↔ ¬ (a = minInteger ∧ b = -1) := by
  constructor
  · rintro hrange ⟨rfl, rfl⟩
    revert hrange
    decide
  · intro hne
    obtain ⟨hlow, hhigh⟩ := ha
    have hquotient : (Int.tdiv a b).natAbs = a.natAbs / b.natAbs := Int.natAbs_tdiv a b
    unfold InRange minInteger maxInteger at *
    by_cases hunit : b.natAbs = 1
    · rcases Int.natAbs_eq_natAbs_iff.mp (hunit.trans Int.natAbs_one.symm) with rfl | rfl
      · rw [Int.tdiv_one]
        omega
      · rw [Int.tdiv_neg, Int.tdiv_one]
        omega
    · have hhalf : a.natAbs / b.natAbs ≤ a.natAbs / 2 := by
        rcases Nat.eq_zero_or_pos b.natAbs with hzero | hpos
        · simp [hzero]
        · exact Nat.div_le_div_left (by omega) (by decide)
      omega

theorem magnitude_eq_natAbs {n : Int} (hne : n ≠ minInteger) : magnitude n = n.natAbs :=
  if_neg hne

/-- A power is exact where the exponent is one that is accepted, and no integer otherwise. -/
theorem applyInt_pow_eq_int_iff {a b n : Int} (hb : b ≠ minInteger) :
    applyInt .pow a b = .ok (.int n) ↔ BinaryOp.pow.integer? a b = some n ∧ InRange n := by
  rw [applyInt, BinaryOp.integer?, magnitude_eq_natAbs hb]
  by_cases haccepted : 0 ≤ b ∧ b ≤ maxExponent
  · have hsmall : ¬ (b.natAbs : Int) > maxExponent := by omega
    rw [if_neg hsmall, if_neg (Int.not_lt.mpr haccepted.1), if_pos haccepted, exact_eq_int_iff,
      Option.some.injEq]
    rfl
  · -- The exponent is too large or negative, and then there is a double or nothing.
    rw [if_neg haccepted]
    split_ifs with hlarge hneg hbase
    · simp
    · simp
    · simp [finite_ne_int]
    · exact absurd haccepted (by omega)

/-- On integers of 128 bits an operator gives an integer exactly when its exact result is one of
128 bits. -/
theorem applyInt_eq_int_iff {op : BinaryOp} {a b n : Int} (ha : InRange a)
    (hremainder : ¬ (op = .mod ∧ a = minInteger ∧ b = -1))
    (hexponent : ¬ (op = .pow ∧ b = minInteger)) :
    applyInt op a b = .ok (.int n) ↔ op.integer? a b = some n ∧ InRange n := by
  cases op with
  | add | sub | mul => simp only [applyInt, BinaryOp.integer?, exact_eq_int_iff, Option.some.injEq]
  | div =>
      by_cases hzero : b = 0
      · simp [applyInt, BinaryOp.integer?, hzero]
      by_cases hdvd : b ∣ a
      · have hremains : Int.tmod a b = 0 := Int.tmod_eq_zero_of_dvd hdvd
        simp [applyInt, BinaryOp.integer?, hzero, hdvd, hremains, Int.tdiv_eq_ediv_of_dvd hdvd,
          exact_eq_int_iff]
      · have hremains : Int.tmod a b ≠ 0 := mt Int.dvd_of_tmod_eq_zero hdvd
        simp [applyInt, BinaryOp.integer?, hzero, hdvd, hremains, finite_ne_int]
  | mod =>
      by_cases hzero : b = 0
      · simp [applyInt, BinaryOp.integer?, hzero]
      have hquotient : InRange (Int.tdiv a b) :=
        (inRange_tdiv_iff ha).mpr fun hleast => hremainder ⟨rfl, hleast⟩
      simp [applyInt, BinaryOp.integer?, hzero, hquotient, exact_eq_int_iff,
        flooredModulo_eq_fmod a hzero, Int.fmod_def]
  | pow => exact applyInt_pow_eq_int_iff fun hleast => hexponent ⟨rfl, hleast⟩

theorem applyFloat_ne_int (op : BinaryOp) (x y : Float) (n : Int) :
    applyFloat op x y ≠ .ok (.int n) := by
  cases op <;> simp only [applyFloat] <;> (repeat' split) <;> simp [finite_ne_int]

/-- An operator that gives an integer was given two. -/
theorem apply_eq_int_iff {op : BinaryOp} {a b : Number} {n : Int} :
    apply op a b = .ok (.int n) ↔
      ∃ m k, a = .int m ∧ b = .int k ∧ applyInt op m k = .ok (.int n) := by
  cases a <;> cases b <;> simp [apply, applyFloat_ne_int]

theorem applySign_neg_eq_int_iff {a : Number} {n : Int} :
    applySign .neg a = .ok (.int n) ↔ ∃ m, a = .int m ∧ -m = n ∧ InRange n := by
  cases a <;> simp [applySign, exact_eq_int_iff]

/-! ## Trees -/

theorem Expr.isExactly_literal (value : Number) (n : Int) :
    (Expr.literal value).IsExactly n ↔ value = .int n ∧ InRange n := by
  cases value with
  | int m =>
      simp only [Expr.IsExactly, Expr.integer?, Expr.nodes, List.mem_singleton, forall_eq,
        Option.some.injEq, exists_eq_left', Number.int.injEq]
      exact and_congr_right fun heq => heq ▸ Iff.rfl
  | float x => simp [Expr.IsExactly, Expr.integer?]

theorem Expr.isExactly_group (inner : Expr) (n : Int) :
    (Expr.group inner).IsExactly n ↔ inner.IsExactly n := by
  simp only [Expr.IsExactly, Expr.integer?, Expr.nodes, List.forall_mem_cons]
  exact ⟨fun h => ⟨h.1, h.2.2⟩, fun h => ⟨h.1, h.2 _ inner.self_mem_nodes, h.2⟩⟩

theorem Expr.isExactly_plus (operand : Expr) (n : Int) :
    (Expr.unary .plus operand).IsExactly n ↔ operand.IsExactly n := by
  simp only [Expr.IsExactly, Expr.integer?, Expr.nodes, List.forall_mem_cons]
  exact ⟨fun h => ⟨h.1, h.2.2⟩, fun h => ⟨h.1, h.2 _ operand.self_mem_nodes, h.2⟩⟩

theorem Expr.isExactly_neg (operand : Expr) (n : Int) :
    (Expr.unary .neg operand).IsExactly n ↔ ∃ m, operand.IsExactly m ∧ -m = n ∧ InRange n := by
  simp only [Expr.IsExactly, Expr.integer?, Expr.nodes, List.forall_mem_cons,
    Option.map_eq_some_iff]
  constructor
  · rintro ⟨⟨m, hm, rfl⟩, ⟨_, ⟨m', hm', rfl⟩, hrange⟩, hnodes⟩
    obtain rfl : m' = m := Option.some.inj (hm'.symm.trans hm)
    exact ⟨m', ⟨hm, hnodes⟩, rfl, hrange⟩
  · rintro ⟨m, ⟨hm, hnodes⟩, rfl, hrange⟩
    exact ⟨⟨m, hm, rfl⟩, ⟨-m, ⟨m, hm, rfl⟩, hrange⟩, hnodes⟩

theorem Expr.isExactly_binary (op : BinaryOp) (left right : Expr) (n : Int) :
    (Expr.binary op left right).IsExactly n ↔
      ∃ a b, left.IsExactly a ∧ right.IsExactly b ∧ op.integer? a b = some n ∧ InRange n := by
  simp only [Expr.IsExactly, Expr.integer?, Expr.nodes, List.forall_mem_cons,
    List.forall_mem_append, Option.bind_eq_bind, Option.bind_eq_some_iff]
  constructor
  · rintro ⟨⟨a, ha, b, hb, hn⟩, ⟨m, ⟨a', ha', b', hb', hm⟩, hrange⟩, hleft, hright⟩
    obtain rfl : a' = a := Option.some.inj (ha'.symm.trans ha)
    obtain rfl : b' = b := Option.some.inj (hb'.symm.trans hb)
    obtain rfl : m = n := Option.some.inj (hm.symm.trans hn)
    exact ⟨a', b', ⟨ha, hleft⟩, ⟨hb, hright⟩, hn, hrange⟩
  · rintro ⟨a, b, ⟨ha, hleft⟩, ⟨hb, hright⟩, hn, hrange⟩
    exact ⟨⟨a, ha, b, hb, hn⟩, ⟨n, ⟨a, ha, b, hb, hn⟩, hrange⟩, hleft, hright⟩

/-- The literals of a tree that are integers have 128 bits. -/
def Expr.LiteralsInRange (tree : Expr) : Prop :=
  ∀ n, .number (.int n) ∈ tree.flatten → InRange n

/-- Without promotion a tree has an integer value exactly when it comes to that integer exactly. -/
theorem Expr.value_eq_int_iff {tree : Expr} (hliterals : tree.LiteralsInRange)
    (hwithin : tree.StaysWithin) (n : Int) :
    tree.value false = .ok (.int n) ↔ tree.IsExactly n := by
  induction tree generalizing n with
  | literal number =>
      have hrange : number = .int n → InRange n := fun heq => hliterals n (by simp [flatten, heq])
      simpa [value, isExactly_literal] using hrange
  | group inner ih =>
      rw [isExactly_group, value]
      exact ih (fun m hm => hliterals m (by simp [flatten, hm]))
        (hwithin.mono fun node hnode => by simp [nodes, hnode]) n
  | unary op operand ih =>
      have hoperand := ih (fun m hm => hliterals m (by simp [flatten, hm]))
        (hwithin.mono fun node hnode => by simp [nodes, hnode])
      cases op with
      | plus =>
          rw [isExactly_plus, ← hoperand, value, bind_eq_ok]
          simp [applySign]
      | neg =>
          simp only [isExactly_neg, ← hoperand, value, bind_eq_ok, applySign_neg_eq_int_iff]
          constructor
          · rintro ⟨_, hvalue, m, rfl, hm⟩
            exact ⟨m, hvalue, hm⟩
          · rintro ⟨m, hvalue, hm⟩
            exact ⟨.int m, hvalue, m, rfl, hm⟩
  | binary op left right ihLeft ihRight =>
      have hleft := ihLeft (fun m hm => hliterals m (by simp [flatten, hm]))
        (hwithin.mono fun node hnode => by simp [nodes, hnode])
      have hright := ihRight (fun m hm => hliterals m (by simp [flatten, hm]))
        (hwithin.mono fun node hnode => by simp [nodes, hnode])
      -- What the operands come to keeps the operator off its two exceptions.
      have happly {a b : Int} (ha : left.IsExactly a) (hb : right.IsExactly b) :
          applyInt op a b = .ok (.int n) ↔ op.integer? a b = some n ∧ InRange n := by
        refine applyInt_eq_int_iff ha.inRange ?_ ?_
        · rintro ⟨rfl, rfl, rfl⟩
          exact hwithin.remainder left right (by simp [nodes]) ⟨ha, hb⟩
        · rintro ⟨rfl, rfl⟩
          exact hwithin.exponent left right (by simp [nodes]) hb
      simp only [isExactly_binary, value, bind_eq_ok, apply_eq_int_iff]
      constructor
      · rintro ⟨_, ha, _, hb, a, b, rfl, rfl, hn⟩
        have hexactLeft := (hleft a).mp ha
        have hexactRight := (hright b).mp hb
        exact ⟨a, b, hexactLeft, hexactRight, (happly hexactLeft hexactRight).mp hn⟩
      · rintro ⟨a, b, ha, hb, hn⟩
        exact ⟨.int a, (hleft a).mpr ha, .int b, (hright b).mpr hb, a, b, rfl, rfl,
          (happly ha hb).mpr hn⟩

/-! ## Points in a text, its tokens and its tree -/

/-- Does a number with a point occur among the tokens? -/
def HasPoint (tokens : List Token) : Prop :=
  ∃ text, .number text true ∈ tokens

theorem hasPoint_pendingToken (pending : List Char) :
    HasPoint (pendingToken pending) ↔ '.' ∈ pending := by
  unfold pendingToken
  split
  · next hempty => simp [HasPoint, List.isEmpty_iff.mp hempty]
  · simp [HasPoint]

/-- Characters that are no points end the number before them and make marks of their own. -/
private theorem hasPoint_emit {pending rest : List Char} {more : List Token}
    (skipped : List Char) (marks : List Token) (hskipped : '.' ∉ skipped)
    (hmarks : ¬ HasPoint marks) (hmore : HasPoint more ↔ '.' ∈ rest) :
    HasPoint (pendingToken pending ++ (marks ++ more)) ↔ '.' ∈ pending ++ (skipped ++ rest) := by
  have hpending := hasPoint_pendingToken pending
  simp only [HasPoint, not_exists] at hpending hmarks hmore ⊢
  simp [exists_or, hpending, hmarks, hmore, hskipped]

theorem singleToken?_eq_some {c : Char} {token : Token} (hsingle : singleToken? c = some token) :
    '.' ∉ [c] ∧ ¬ HasPoint [token] := by
  unfold singleToken? at hsingle
  split at hsingle
  case h_6 => cases hsingle
  all_goals
    cases hsingle
    exact ⟨by decide, by simp [HasPoint]⟩

/-- The scanner makes a number with a point exactly of a text with a point. -/
theorem hasPoint_scan {position : Nat} {pending text : List Char} {tokens : List Token}
    (hscan : scan position pending text = .ok tokens) :
    HasPoint tokens ↔ '.' ∈ pending ++ text := by
  fun_induction scan position pending text generalizing tokens with
  | case1 | case4 | case5 | case9 | case12 => cases hscan
  | case2 =>
      cases hscan
      rw [hasPoint_pendingToken, List.append_nil]
  | case3 _ _ _ _ _ ih =>
      rw [ih hscan]
      simp
  -- Blanks make no token, operators one: whatever it is, the number in front ends there.
  | case6 position pending c rest _ _ _ hblank ih =>
      obtain ⟨more, hmore, htokens⟩ := bind_eq_ok.mp hscan
      cases htokens
      refine hasPoint_emit [c] [] ?_ (by simp [HasPoint]) (ih hmore)
      rintro hpoint
      obtain rfl := List.mem_singleton.mp hpoint
      revert hblank
      decide
  | case7 _ _ _ _ _ _ _ ih =>
      obtain ⟨more, hmore, htokens⟩ := bind_eq_ok.mp hscan
      cases htokens
      exact hasPoint_emit ['*', '*'] [.doubleStar] (by decide) (by simp [HasPoint]) (ih hmore)
  | case8 _ _ _ _ _ _ _ _ ih =>
      obtain ⟨more, hmore, htokens⟩ := bind_eq_ok.mp hscan
      cases htokens
      exact hasPoint_emit ['*'] [.star] (by decide) (by simp [HasPoint]) (ih hmore)
  | case10 _ _ _ _ _ _ _ _ _ ih =>
      obtain ⟨more, hmore, htokens⟩ := bind_eq_ok.mp hscan
      cases htokens
      exact hasPoint_emit ['/'] [.slash] (by decide) (by simp [HasPoint]) (ih hmore)
  | case11 _ _ c rest _ _ _ _ _ _ token hsingle ih =>
      obtain ⟨more, hmore, htokens⟩ := bind_eq_ok.mp hscan
      cases htokens
      obtain ⟨hc, htoken⟩ := singleToken?_eq_some hsingle
      exact hasPoint_emit [c] [token] hc htoken (ih hmore)

/-- A tree holds a double exactly when the tokens that it is written with hold a point. -/
theorem Expr.hasFloat_iff {tree : Expr} :
    tree.hasFloat = true ↔ ∃ x, .number (.float x) ∈ tree.flatten := by
  induction tree with
  | literal value => cases value <;> simp [hasFloat, flatten, Number.isFloat]
  | group inner ih => simp [hasFloat, flatten, ih]
  | unary op operand ih => simp [hasFloat, flatten, ih]
  | binary op left right ihLeft ihRight => simp [hasFloat, flatten, ihLeft, ihRight, exists_or]

/-- The symbols of a tree are those of the tokens that it was read from. -/
theorem mem_flatten_iff {tokens : List Token} {tree : Expr} (hparse : parse tokens = .ok tree)
    (symbol : Symbol) :
    symbol ∈ tree.flatten ↔ ∃ token ∈ tokens, token.symbol? = some symbol := by
  have hsymbols := ((parse_iff_derives tokens tree).mp hparse).flatten
  rw [← List.mem_map, hsymbols]
  simp

theorem literalValue_eq_float {text : String} {dotted : Bool} {x : Float}
    (hvalue : literalValue text dotted = .ok (.float x)) : dotted = true := by
  cases dotted with
  | true => rfl
  | false =>
      simp only [literalValue, Bool.false_eq_true, if_false] at hvalue
      split at hvalue <;> cases hvalue

theorem literalValue_eq_int {text : String} {dotted : Bool} {n : Int}
    (hvalue : literalValue text dotted = .ok (.int n)) : InRange n := by
  cases dotted with
  | true => cases hvalue
  | false =>
      simp only [literalValue, Bool.false_eq_true, if_false] at hvalue
      split at hvalue
      · next hfits =>
          cases hvalue
          exact ⟨by unfold minInteger; omega, hfits⟩
      · cases hvalue

/-- Literals are promoted exactly where the tokens hold a point. -/
theorem hasFloat_iff_hasPoint {tokens : List Token} {tree : Expr}
    (hparse : parse tokens = .ok tree) : tree.hasFloat = true ↔ HasPoint tokens := by
  simp only [Expr.hasFloat_iff, mem_flatten_iff hparse]
  constructor
  · rintro ⟨x, token, hmem, hsymbol⟩
    obtain ⟨text, dotted, rfl, hvalue⟩ := Token.eq_number_of_symbol? hsymbol
    exact ⟨text, literalValue_eq_float hvalue ▸ hmem⟩
  · rintro ⟨text, hmem⟩
    exact ⟨_, _, hmem, rfl⟩

theorem literalsInRange_of_parse {tokens : List Token} {tree : Expr}
    (hparse : parse tokens = .ok tree) : tree.LiteralsInRange := by
  intro n hmem
  obtain ⟨token, -, hsymbol⟩ := (mem_flatten_iff hparse _).mp hmem
  obtain ⟨text, dotted, -, hvalue⟩ := Token.eq_number_of_symbol? hsymbol
  exact literalValue_eq_int hvalue

/-! ## Promotion -/

theorem finite_isFloat {x : Float} {value : Number} (hfinite : finite x = .ok value) :
    value.isFloat = true := by
  unfold finite at hfinite
  split at hfinite <;> cases hfinite
  rfl

theorem applyFloat_isFloat {op : BinaryOp} {x y : Float} {value : Number}
    (happly : applyFloat op x y = .ok value) : value.isFloat = true := by
  cases op <;> simp only [applyFloat] at happly <;> (repeat' split at happly) <;>
    first | exact finite_isFloat happly | cases happly

/-- Where literals are promoted, every value is a double. -/
theorem Expr.value_promoted_isFloat {tree : Expr} {number : Number}
    (hvalue : tree.value true = .ok number) : number.isFloat = true := by
  induction tree generalizing number with
  | literal literal =>
      cases hvalue
      rfl
  | group inner ih => exact ih hvalue
  | unary op operand ih =>
      obtain ⟨a, ha, hsign⟩ := bind_eq_ok.mp hvalue
      cases a with
      | int m => cases ih ha
      | float x => cases op <;> cases hsign <;> rfl
  | binary op left right ihLeft ihRight =>
      obtain ⟨a, ha, hrest⟩ := bind_eq_ok.mp hvalue
      obtain ⟨b, hb, happly⟩ := bind_eq_ok.mp hrest
      cases a with
      | int m => cases ihLeft ha
      | float x => exact applyFloat_isFloat happly

/-! ## The main statement -/

/-- The tree of a text. -/
def readTree (text : String) : Except Error Expr := do
  parse (← tokenize text)

theorem readTree_eq_ok_iff {text : String} {tree : Expr} :
    readTree text = .ok tree ↔ ∃ tokens, tokenize text = .ok tokens ∧ parse tokens = .ok tree :=
  bind_eq_ok

theorem evaluate_eq_ok_iff {text : String} {value : Number} :
    evaluate text = .ok value ↔ text.utf8ByteSize ≤ maxLength ∧
      ∃ tree, readTree text = .ok tree ∧ tree.value tree.hasFloat = .ok value := by
  unfold evaluate
  split
  · next hlong => simp [Nat.not_le.mpr hlong]
  · next hshort =>
      simp only [Nat.not_lt.mp hshort, true_and, readTree_eq_ok_iff, bind_eq_ok]
      exact ⟨fun ⟨tokens, htokens, tree, htree, hvalue⟩ => ⟨tree, ⟨tokens, htokens, htree⟩, hvalue⟩,
        fun ⟨tree, ⟨tokens, htokens, htree⟩, hvalue⟩ => ⟨tokens, htokens, tree, htree, hvalue⟩⟩

/-- Literals are promoted exactly where the text holds a point. -/
theorem hasFloat_iff_point {text : String} {tree : Expr} (hread : readTree text = .ok tree) :
    tree.hasFloat = true ↔ '.' ∈ text.toList := by
  obtain ⟨tokens, htokens, htree⟩ := readTree_eq_ok_iff.mp hread
  rw [hasFloat_iff_hasPoint htree, hasPoint_scan htokens, List.nil_append]

/-- **Integer results are exact.**  A text without a point has an integer value exactly when it is
short enough, has a tree, and the tree comes to that integer over the unbounded integers with 128
bits at every node.  This is said of trees that hold neither a remainder of the least integer by
`-1` nor an exponent that is the least integer.  Every value of a text with a point is a double. -/
theorem evaluate_integers_exact (text : String) :
    ('.' ∉ text.toList →
      (∀ tree, readTree text = .ok tree → tree.StaysWithin) →
      ∀ n, evaluate text = .ok (.int n) ↔
        text.utf8ByteSize ≤ maxLength ∧ ∃ tree, readTree text = .ok tree ∧ tree.IsExactly n) ∧
    ('.' ∈ text.toList → ∀ value, evaluate text = .ok value → ∃ x, value = .float x) := by
  constructor
  · intro hpoint hwithin n
    rw [evaluate_eq_ok_iff]
    refine and_congr_right fun _ => exists_congr fun tree => and_congr_right fun hread => ?_
    have hinteger : tree.hasFloat = false := by
      rw [← Bool.not_eq_true, hasFloat_iff_point hread]
      exact hpoint
    obtain ⟨tokens, -, htree⟩ := readTree_eq_ok_iff.mp hread
    rw [hinteger]
    exact Expr.value_eq_int_iff (literalsInRange_of_parse htree) (hwithin tree hread) n
  · intro hpoint value hvalue
    obtain ⟨-, tree, hread, hresult⟩ := evaluate_eq_ok_iff.mp hvalue
    -- A point promotes every literal, and a promoted tree has only doubles.
    rw [(hasFloat_iff_point hread).mpr hpoint] at hresult
    have hfloat := Expr.value_promoted_isFloat hresult
    cases value with
    | int n => cases hfloat
    | float x => exact ⟨x, rfl⟩

/-- A floored remainder, a power and an exact quotient in one text. -/
theorem evaluate_remainder_power_quotient :
    '.' ∉ "(7 - 10) % 4 * 2 ** 5 / -8".toList ∧
      (∀ tree, readTree "(7 - 10) % 4 * 2 ** 5 / -8" = .ok tree → tree.StaysWithin) ∧
      evaluate "(7 - 10) % 4 * 2 ** 5 / -8" = .ok (.int (-4)) := by
  let tokens : List Token :=
    [.leftParen, .number "7" false, .minus, .number "10" false, .rightParen, .percent,
      .number "4" false, .star, .number "2" false, .doubleStar, .number "5" false, .slash, .minus,
      .number "8" false]
  let tree : Expr :=
    .binary .div
      (.binary .mul
        (.binary .mod (.group (.binary .sub (.literal (.int 7)) (.literal (.int 10))))
          (.literal (.int 4)))
        (.binary .pow (.literal (.int 2)) (.literal (.int 5))))
      (.unary .neg (.literal (.int 8)))
  have htokens : tokenize "(7 - 10) % 4 * 2 ** 5 / -8" = .ok tokens := by decide +kernel
  have hread : readTree "(7 - 10) % 4 * 2 ** 5 / -8" = .ok tree :=
    readTree_eq_ok_iff.mpr ⟨tokens, htokens, rfl⟩
  have hpoint : '.' ∉ "(7 - 10) % 4 * 2 ** 5 / -8".toList := by decide
  have hwithin : ∀ tree, readTree "(7 - 10) % 4 * 2 ** 5 / -8" = .ok tree →
      tree.StaysWithin := by
    intro other hother
    cases hread.symm.trans hother
    refine ⟨?_, ?_⟩
    · rintro left right hnode ⟨hleft, -⟩
      simp [tree, Expr.nodes] at hnode
      obtain ⟨rfl, rfl⟩ := hnode
      exact absurd hleft.1 (by decide)
    · rintro left right hnode hright
      simp [tree, Expr.nodes] at hnode
      obtain ⟨rfl, rfl⟩ := hnode
      exact absurd hright.1 (by decide)
  have hexact : tree.IsExactly (-4) := by
    refine ⟨rfl, ?_⟩
    simp [tree, Expr.nodes, Expr.integer?, BinaryOp.integer?]
    decide
  exact ⟨hpoint, hwithin, ((evaluate_integers_exact _).1 hpoint hwithin _).mpr
    ⟨by decide, tree, hread, hexact⟩⟩

end ToolAssistant.Arithmetic
