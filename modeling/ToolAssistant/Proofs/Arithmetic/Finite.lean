import ToolAssistant.Proofs.Arithmetic.Lexemes
import ToolAssistant.Proofs.Decimal.Finite

/-!
# Results that are not finite

An operator refuses a double that is not finite.  Literals, groups and signs refuse nothing, so a
decimal literal that is too large for a double is handed out as an infinity where no operator stands
above it.  The main statement says that there is no other way to such a value, and none to a value
that is not a number.

## Strategy

Two numbers in a text meet in an operator, and the result above it stays finite under signs.  With
one number there is no operator, and the value is the literal up to signs, which neither make nor
lose an infinity.  An integer on its own is not promoted, so that literal is a decimal one, and
`Double.isFinite_ofScientific` says which of these overflow.
-/

namespace ToolAssistant.Arithmetic

/-! ## Operators -/

/-- Whether a double is finite, and whether it is no number.  An integer is of no kind. -/
def Number.kind : Number → Option (Bool × Bool)
  | .int _ => none
  | .float x => some (x.isFinite, x.isNaN)

/-- The number is an integer or a finite double. -/
def Number.IsFinite (value : Number) : Prop :=
  ∀ kind ∈ value.kind, kind = (true, false)

theorem finite_isFinite {x : Float} {value : Number} (hfinite : finite x = .ok value) :
    value.IsFinite := by
  unfold finite at hfinite
  split at hfinite
  · next hx =>
      cases hfinite
      rw [Double.isFinite_eq] at hx
      rintro kind ⟨rfl⟩
      rw [hx, Double.isNaN_of_isFinite hx]
  · cases hfinite

theorem exact_isInteger {n : Int} {value : Number} (hexact : exact n = .ok value) :
    value.kind = none := by
  unfold exact at hexact
  split at hexact <;> cases hexact
  rfl

theorem exact_isFinite {n : Int} {value : Number} (hexact : exact n = .ok value) :
    value.IsFinite := by
  simp [Number.IsFinite, exact_isInteger hexact]

theorem applyInt_isFinite {op : BinaryOp} {a b : Int} {value : Number}
    (happly : applyInt op a b = .ok value) : value.IsFinite := by
  cases op <;> simp only [applyInt] at happly <;> (repeat' split at happly) <;>
    first | exact finite_isFinite happly | exact exact_isFinite happly | cases happly

theorem applyFloat_isFinite {op : BinaryOp} {x y : Float} {value : Number}
    (happly : applyFloat op x y = .ok value) : value.IsFinite := by
  cases op <;> simp only [applyFloat] at happly <;> (repeat' split at happly) <;>
    first | exact finite_isFinite happly | cases happly

/-- What an operator gives is finite. -/
theorem apply_isFinite {op : BinaryOp} {a b value : Number} (happly : apply op a b = .ok value) :
    value.IsFinite := by
  unfold apply at happly
  split at happly
  · exact applyInt_isFinite happly
  · exact applyFloat_isFinite happly

/-- A sign keeps the kind. -/
theorem applySign_kind {op : UnaryOp} {a value : Number} (hsign : applySign op a = .ok value) :
    value.kind = a.kind := by
  unfold applySign at hsign
  split at hsign
  · cases hsign
    rfl
  · exact exact_isInteger hsign
  · cases hsign
    rw [Number.kind, Double.isFinite_neg, Double.isNaN_neg, Number.kind]

/-! ## Trees -/

/-- The literals of an expression, from left to right. -/
def Expr.literals : Expr → List Number
  | .literal value => [value]
  | .group inner => inner.literals
  | .unary _ operand => operand.literals
  | .binary _ left right => left.literals ++ right.literals

theorem Expr.literals_ne_nil (tree : Expr) : tree.literals ≠ [] := by
  induction tree with
  | literal value => simp [literals]
  | group inner ih => exact ih
  | unary op operand ih => exact ih
  | binary op left right ihLeft ihRight => simp [literals, ihLeft]

/-- Where more than one literal stands, an operator has seen to it that the value is finite. -/
theorem Expr.value_isFinite {tree : Expr} {promote : Bool} {value : Number}
    (hseveral : ∀ number, tree.literals ≠ [number]) (hvalue : tree.value promote = .ok value) :
    value.IsFinite := by
  induction tree generalizing value with
  | literal number => exact absurd rfl (hseveral number)
  | group inner ih => exact ih hseveral hvalue
  | unary op operand ih =>
      obtain ⟨a, ha, hsign⟩ := bind_eq_ok.mp hvalue
      rw [Number.IsFinite, applySign_kind hsign]
      exact ih hseveral ha
  | binary op left right =>
      obtain ⟨a, -, hrest⟩ := bind_eq_ok.mp hvalue
      obtain ⟨b, -, happly⟩ := bind_eq_ok.mp hrest
      exact apply_isFinite happly

/-- Literals are promoted exactly where one of them is a double. -/
theorem Expr.hasFloat_eq_any (tree : Expr) :
    tree.hasFloat = tree.literals.any Number.isFloat := by
  induction tree with
  | literal value => simp [hasFloat, literals]
  | group inner ih => exact ih
  | unary op operand ih => exact ih
  | binary op left right ihLeft ihRight => simp [hasFloat, literals, ihLeft, ihRight]

/-- A literal on its own, under signs and in groups, passes its kind on to the value. -/
theorem Expr.kind_of_one_literal {tree : Expr} {number value : Number}
    (hone : tree.literals = [number]) (hvalue : tree.value tree.hasFloat = .ok value) :
    value.kind = number.kind := by
  have hpromote : tree.hasFloat = number.isFloat := by
    rw [hasFloat_eq_any, hone, List.any_cons, List.any_nil, Bool.or_false]
  -- The flag is that of the whole tree, so it is fixed before the induction enters the parts.
  rw [hpromote] at hvalue
  clear hpromote
  induction tree generalizing value with
  | literal literal =>
      cases hone
      cases number <;> cases hvalue <;> rfl
  | group inner ih => exact ih hone hvalue
  | unary op operand ih =>
      obtain ⟨a, ha, hsign⟩ := bind_eq_ok.mp hvalue
      rw [applySign_kind hsign, ih hone ha]
  | binary op left right =>
      have hlength := congrArg List.length hone
      have hleft := List.length_pos_of_ne_nil left.literals_ne_nil
      have hright := List.length_pos_of_ne_nil right.literals_ne_nil
      simp only [literals, List.length_append, List.length_singleton] at hlength
      omega

/-! ## Numbers of a text -/

/-- The text of a number token, and whether it has a point. -/
def Token.number? : Token → Option (String × Bool)
  | .number text dotted => some (text, dotted)
  | _ => none

@[simp] theorem UnaryOp.number?_token (op : UnaryOp) : op.token.number? = none := by
  cases op <;> rfl

@[simp] theorem BinaryOp.number?_token (op : BinaryOp) : op.token.number? = none := by
  cases op <;> rfl

/-- The literals of a tree are the values of the numbers that it is derived from. -/
theorem Derives.literals {phrase : Phrase} {depth : Nat} {tokens : List Token} {tree : Expr}
    (hderives : Derives phrase depth tokens tree) :
    (tokens.filterMap Token.number?).map (fun number => literalValue number.1 number.2) =
      tree.literals.map .ok := by
  induction hderives with
  | term _ ih | factor _ ih | power _ ih | atom _ ih => exact ih
  | sum _ _ _ ihLeft ihRight | product _ _ _ ihLeft ihRight =>
      simp [Expr.literals, ihLeft, ihRight]
  | signed op _ ih => simp [Expr.literals, ih]
  | raised _ _ ihBase ihExponent =>
      simp [Expr.literals, ihBase, ihExponent, List.filterMap_cons, Token.number?]
  | decimal text => simp [Expr.literals, Token.number?, literalValue]
  | integer text hfits => simp [Expr.literals, Token.number?, literalValue, hfits]
  | parentheses _ ih => simp [Expr.literals, ih, List.filterMap_cons, Token.number?]

/-- A decimal literal that is too large for a double: the integer of its digits has reached the
bound, scaled by as many places as the literal has. -/
def Overflows (numeral : List Char) : Prop :=
  let whole := numeral.takeWhile (· != '.')
  let fraction := (numeral.dropWhile (· != '.')).drop 1
  Double.overflowBound * 10 ^ fraction.length ≤ Nat.ofDigitChars 10 (whole ++ fraction) 0

theorem isFinite_floatOfLiteral (numeral : List Char) :
    (floatOfLiteral numeral).isFinite = true ↔ ¬ Overflows numeral :=
  (Double.isFinite_ofScientific _ _).trans Nat.not_le.symm

/-- The text holds one number, a decimal one that is too large for a double. -/
def IsOversized (text : String) : Prop :=
  ∃ tokens numeral, tokenize text = .ok tokens ∧
    tokens.filterMap Token.number? = [(numeral, true)] ∧ Overflows numeral.toList

/-! ## The main statement -/

/-- **Only a literal can be too large.**  A double that a text comes to is a number, and it is
finite unless the only number of the text is a decimal literal that is too large for a double. -/
theorem evaluate_finite_iff (text : String) (x : Float)
    (hvalue : evaluate text = .ok (.float x)) :
    Double.view x ≠ .notANumber ∧ (Double.isFinite x = true ↔ ¬ IsOversized text) := by
  obtain ⟨-, tree, hread, hresult⟩ := evaluate_eq_ok_iff.mp hvalue
  obtain ⟨tokens, htokens, htree⟩ := readTree_eq_ok_iff.mp hread
  have hliterals := ((parse_iff_derives tokens tree).mp htree).literals
  have hoversized : IsOversized text ↔ ∃ numeral,
      tokens.filterMap Token.number? = [(numeral, true)] ∧ Overflows numeral.toList := by
    simp [IsOversized, htokens]
  rw [hoversized, Ne, Double.view_eq_notANumber_iff, Bool.not_eq_true, Double.isFinite_eq]
  by_cases hone : ∃ number, tree.literals = [number]
  · obtain ⟨number, hone⟩ := hone
    have hkind := Expr.kind_of_one_literal hone hresult
    rw [hone, List.map_singleton, List.map_eq_singleton_iff] at hliterals
    obtain ⟨⟨numeral, dotted⟩, hnumbers, hliteral⟩ := hliterals
    cases number with
    | int n => cases hkind
    | float y =>
        obtain rfl := literalValue_eq_float hliteral
        cases hliteral
        obtain ⟨hfinite, hnan⟩ := Prod.mk.inj (Option.some.inj hkind)
        have hnumber : x.isNaN = false := hnan.trans (Double.isNaN_ofScientific _ _)
        refine ⟨hnumber, ?_⟩
        rw [hfinite, isFinite_floatOfLiteral]
        simp [hnumbers]
  · have hkind := Expr.value_isFinite (fun number hnumber => hone ⟨number, hnumber⟩) hresult _ rfl
    obtain ⟨hfinite, hnan⟩ := Prod.mk.inj hkind
    refine ⟨hnan, iff_of_true hfinite ?_⟩
    -- The only number of an oversized text would be the only literal of its tree.
    rintro ⟨numeral, hnumbers, -⟩
    rw [hnumbers, List.map_singleton] at hliterals
    obtain ⟨number, hsingle, -⟩ := List.map_eq_singleton_iff.mp hliterals.symm
    exact hone ⟨number, hsingle⟩

/-- A sign in front of a group with one decimal number in it. -/
theorem evaluate_finite_negated_group :
    evaluate "-(2.5)" = .ok (.float (-floatOfLiteral "2.5".toList)) ∧
      Double.view (-floatOfLiteral "2.5".toList) ≠ .notANumber ∧
      (Double.isFinite (-floatOfLiteral "2.5".toList) = true ↔ ¬ IsOversized "-(2.5)") := by
  have htokens : tokenize "-(2.5)" =
      .ok [.minus, .leftParen, .number "2.5" true, .rightParen] := by decide +kernel
  have hread : readTree "-(2.5)" =
      .ok (.unary .neg (.group (.literal (.float (floatOfLiteral "2.5".toList))))) :=
    readTree_eq_ok_iff.mpr ⟨_, htokens, rfl⟩
  have hvalue : evaluate "-(2.5)" = .ok (.float (-floatOfLiteral "2.5".toList)) :=
    evaluate_eq_ok_iff.mpr ⟨by decide, _, hread, rfl⟩
  exact ⟨hvalue, evaluate_finite_iff _ _ hvalue⟩

/-- A decimal numeral on its own comes to the double nearest to it, whatever that is. -/
theorem evaluate_numeral {text : String} (hnumeral : IsNumeral text.toList)
    (hpoint : '.' ∈ text.toList) (hlength : text.utf8ByteSize ≤ maxLength) :
    evaluate text = .ok (.float (floatOfLiteral text.toList)) := by
  have htokens : tokenize text = .ok [.number text true] := by
    have hscan := @scan_number text true ⟨hnumeral, iff_of_true rfl hpoint⟩ [] (by simp) 0
    rw [List.append_nil] at hscan
    exact hscan
  have hparse : parse [.number text true] = .ok (.literal (.float (floatOfLiteral text.toList))) :=
    (parse_iff_derives _ _).mpr (.term (.factor (.power (.atom (.decimal text)))))
  exact evaluate_eq_ok_iff.mpr ⟨hlength, _, readTree_eq_ok_iff.mpr ⟨_, htokens, hparse⟩, rfl⟩

/-- A power of ten as a decimal numeral without places. -/
def powerOfTen (zeros : Nat) : String :=
  String.ofList ('1' :: List.replicate zeros '0' ++ ['.'])

theorem isNumeral_powerOfTen (zeros : Nat) : IsNumeral (powerOfTen zeros).toList := by
  rw [powerOfTen, String.toList_ofList]
  refine ⟨?_, ?_, '1', by simp, by decide⟩
  · rintro c hmem
    simp only [List.cons_append, List.mem_cons, List.mem_append, List.mem_replicate,
      List.not_mem_nil, or_false] at hmem
    rcases hmem with rfl | ⟨-, rfl⟩ | rfl <;> decide
  · simp [List.count_replicate]

/-- A one with 309 zeros and a point behind it comes to an infinity. -/
theorem evaluate_power_of_ten_infinite :
    ∃ x, evaluate (powerOfTen 309) = .ok (.float x) ∧ Double.isFinite x = false := by
  have hpoint : '.' ∈ (powerOfTen 309).toList := by
    rw [powerOfTen, String.toList_ofList]
    exact List.mem_append_right _ (List.mem_singleton_self _)
  have hlength : (powerOfTen 309).utf8ByteSize ≤ maxLength := by decide +kernel
  have hinfinite : Double.isFinite (floatOfLiteral (powerOfTen 309).toList) = false := by
    rw [powerOfTen, String.toList_ofList]
    decide +kernel
  exact ⟨_, evaluate_numeral (isNumeral_powerOfTen 309) hpoint hlength, hinfinite⟩

end ToolAssistant.Arithmetic
