import ToolAssistant.Proofs.Arithmetic.Integers

/-!
# What an expression of the grammar is refused for

The grammar alone asks neither how deep an expression nests nor how large its numerals are
(`Matches`).  A list of tokens that it accepts is still refused by the parser for these two, and for
nothing else; the value of a tree is refused for what operators refuse.

## Strategy

The tokens of a phrase are read up to their end, in front of any rest that does not go on with the
phrase, or the parser stops at one of its bounds (`ReadsTo`).  As the parsers are chains of calls,
so are the proofs: `ReadsTo.bind` takes one call, and each production of the grammar is a few of
them.
-/

namespace ToolAssistant.Arithmetic

/-! ## The grammar without bounds -/

/-- The grammar of expressions, as a property of tokens. -/
inductive Matches : Phrase → List Token → Prop where
  | term {tokens} : Matches .term tokens → Matches .expr tokens
  | sum {first second} {op : BinaryOp} :
      Matches .expr first → op = .add ∨ op = .sub → Matches .term second →
      Matches .expr (first ++ op.token :: second)
  | factor {tokens} : Matches .factor tokens → Matches .term tokens
  | product {first second} {op : BinaryOp} :
      Matches .term first → op = .mul ∨ op = .div ∨ op = .mod → Matches .factor second →
      Matches .term (first ++ op.token :: second)
  | signed {tokens} (op : UnaryOp) : Matches .factor tokens → Matches .factor (op.token :: tokens)
  | power {tokens} : Matches .power tokens → Matches .factor tokens
  | atom {tokens} : Matches .atom tokens → Matches .power tokens
  | raised {first second} :
      Matches .atom first → Matches .factor second →
      Matches .power (first ++ .doubleStar :: second)
  | number (text : String) (dotted : Bool) : Matches .atom [.number text dotted]
  | parentheses {tokens} :
      Matches .expr tokens → Matches .atom (.leftParen :: tokens ++ [.rightParen])

/-- What is derived within bounds is derived. -/
theorem Derives.matches {phrase : Phrase} {depth : Nat} {tokens : List Token} {tree : Expr}
    (hderives : Derives phrase depth tokens tree) : Matches phrase tokens := by
  induction hderives with
  | term _ ih => exact .term ih
  | sum _ hop _ ihLeft ihRight => exact .sum ihLeft hop ihRight
  | factor _ ih => exact .factor ih
  | product _ hop _ ihLeft ihRight => exact .product ihLeft hop ihRight
  | signed op _ ih => exact .signed op ih
  | power _ ih => exact .power ih
  | atom _ ih => exact .atom ih
  | raised _ _ ihBase ihExponent => exact .raised ihBase ihExponent
  | decimal text => exact .number text true
  | integer text _ => exact .number text false
  | parentheses _ ih => exact .parentheses ih

theorem Matches.ne_nil {phrase : Phrase} {tokens : List Token} (hmatches : Matches phrase tokens) :
    tokens ≠ [] := by
  induction hmatches with
  | term _ ih | factor _ ih | power _ ih | atom _ ih => exact ih
  | sum | product | signed | raised | number | parentheses => simp

/-- A power begins with no sign. -/
theorem Matches.unsigned {tokens : List Token} (hmatches : Matches .power tokens) (op : UnaryOp)
    (rest more : List Token) : tokens ++ rest ≠ op.token :: more := by
  have hatom : ∀ {first : List Token} (rest : List Token), Matches .atom first →
      first ++ rest ≠ op.token :: more := by
    intro first rest hbase
    cases hbase <;> cases op <;> simp [UnaryOp.token]
  cases hmatches with
  | atom hbase => exact hatom rest hbase
  | raised hbase _ =>
      rw [List.append_assoc]
      exact hatom _ hbase

/-! ## Bounds of the parser -/

/-- An integer numeral beyond 128 bits. -/
def Token.IsOversized : Token → Prop
  | .number text false => maxInteger < Nat.ofDigitChars 10 text.toList 0
  | _ => False

instance : DecidablePred Token.IsOversized
  | .number _ false => inferInstanceAs (Decidable (_ < _))
  | .number _ true | .plus | .minus | .star | .doubleStar | .slash | .percent | .leftParen
  | .rightParen => instDecidableFalse

/-- The bounds at which the parser stops. -/
inductive Exceeds (tokens : List Token) : Error → Prop where
  | nesting : Exceeds tokens .tooDeep
  | size {token : Token} : token ∈ tokens → token.IsOversized → Exceeds tokens .overflow

theorem Exceeds.mono {part tokens : List Token} {error : Error} (hexceeds : Exceeds part error)
    (hpart : part ⊆ tokens) : Exceeds tokens error := by
  cases hexceeds with
  | nesting => exact .nesting
  | size hmem hsize => exact .size (hpart hmem) hsize

theorem literalValue_eq_error {text : String} {dotted : Bool} {error : Error}
    (hvalue : literalValue text dotted = .error error) :
    error = .overflow ∧ (Token.number text dotted).IsOversized := by
  cases dotted with
  | true => cases hvalue
  | false =>
      simp only [literalValue, Bool.false_eq_true, if_false] at hvalue
      split at hvalue
      · cases hvalue
      · next hlarge =>
          cases hvalue
          exact ⟨rfl, Int.not_le.mp hlarge⟩

/-- A result of a parser is the given one for some tree, or the parser stops at a bound. -/
def ReadsTo (tokens : List Token) (result : Except Error (Expr × List Token))
    (answer : Expr → Except Error (Expr × List Token)) : Prop :=
  (∃ tree, result = answer tree) ∨ ∃ error, Exceeds tokens error ∧ result = .error error

section ReadsTo

variable {part tokens rest : List Token} {result : Except Error (Expr × List Token)}
  {middle answer : Expr → Except Error (Expr × List Token)}

theorem ReadsTo.of_eq (tree : Expr) (heq : result = answer tree) : ReadsTo tokens result answer :=
  Or.inl ⟨tree, heq⟩

theorem ReadsTo.tooDeep (heq : result = .error .tooDeep) : ReadsTo tokens result answer :=
  Or.inr ⟨.tooDeep, .nesting, heq⟩

theorem ReadsTo.trans (hfirst : ReadsTo part result middle) (hpart : part ⊆ tokens)
    (hmore : ∀ tree, ReadsTo tokens (middle tree) answer) : ReadsTo tokens result answer := by
  rcases hfirst with ⟨tree, rfl⟩ | ⟨error, hexceeds, rfl⟩
  · exact hmore tree
  · exact Or.inr ⟨error, hexceeds.mono hpart, rfl⟩

/-- One parser after another. -/
theorem ReadsTo.bind {next : Expr × List Token → Except Error (Expr × List Token)}
    (hfirst : ReadsTo part result fun tree => .ok (tree, rest)) (hpart : part ⊆ tokens)
    (hnext : ∀ tree, ReadsTo tokens (next (tree, rest)) answer) :
    ReadsTo tokens (result >>= next) answer := by
  rcases hfirst with ⟨tree, rfl⟩ | ⟨error, hexceeds, rfl⟩
  · exact hnext tree
  · exact Or.inr ⟨error, hexceeds.mono hpart, rfl⟩

variable {operand : Parser} {op? : Token → Option BinaryOp}

/-- A chain begins with an operand. -/
private theorem ReadsTo.begin
    (hoperand : ReadsTo tokens (operand (tokens ++ rest)) fun tree => .ok (tree, rest)) :
    ReadsTo tokens (chainOf operand op? (tokens ++ rest)) fun tree =>
      chain operand op? rest.length tree rest :=
  hoperand.bind (List.Subset.refl tokens) fun tree => .of_eq tree rfl

/-- A chain goes on with an operator and an operand. -/
private theorem ReadsTo.extend {phrase : Phrase} {depth : Nat}
    (hsound : Sound operand phrase depth) {token : Token} {op : BinaryOp}
    (hop : op? token = some op)
    (hoperand : ReadsTo part (operand (part ++ rest)) fun tree => .ok (tree, rest))
    (hpart : part ⊆ tokens) (left : Expr) :
    ReadsTo tokens (chain operand op? (token :: part ++ rest).length left (token :: part ++ rest))
      fun tree => chain operand op? rest.length tree rest := by
  rw [List.cons_append, List.length_cons, chain, hop]
  refine hoperand.bind hpart fun right => .of_eq (.binary op left right) ?_
  exact chain_fuel_irrelevant hsound _ _ _ _ (by simp) (Nat.le_refl _)

/-- A chain ends where no operator follows. -/
private theorem ReadsTo.of_stops
    (hchain : ReadsTo tokens result fun tree => chain operand op? rest.length tree rest)
    (hstops : Stops op? rest) : ReadsTo tokens result fun tree => .ok (tree, rest) := by
  simpa only [chain_of_stops hstops] using hchain

end ReadsTo

/-- What the parser of a phrase comes to on tokens in front of `rest`.  A chain may go on there. -/
def Reads (depth : Nat) (tokens : List Token) : Phrase → Prop
  | .expr => ∀ rest, Powerless rest → Stops productOp? rest →
      ReadsTo tokens (exprOf (factor depth) (tokens ++ rest)) fun tree =>
        chain (termOf (factor depth)) sumOp? rest.length tree rest
  | .term => ∀ rest, Powerless rest →
      ReadsTo tokens (termOf (factor depth) (tokens ++ rest)) fun tree =>
        chain (factor depth) productOp? rest.length tree rest
  | .factor => ∀ rest, Powerless rest →
      ReadsTo tokens (factor depth (tokens ++ rest)) fun tree => .ok (tree, rest)
  | .power => ∀ rest, Powerless rest →
      ReadsTo tokens (powerOf (factor depth) (tokens ++ rest)) fun tree => .ok (tree, rest)
  | .atom => ∀ rest,
      ReadsTo tokens (atomOf (factor depth) (tokens ++ rest)) fun tree => .ok (tree, rest)

/-- **A phrase is read up to its end, or the parser stops at a bound.** -/
theorem Matches.reads {phrase : Phrase} {tokens : List Token} (hmatches : Matches phrase tokens)
    (depth : Nat) : Reads depth tokens phrase := by
  induction hmatches generalizing depth with
  | term _ ih =>
      intro rest hpower hstops
      exact ((ih depth rest hpower).of_stops hstops).begin
  | @sum first second op _ hop _ ihLeft ihRight =>
      intro rest hpower hstops
      rw [List.append_assoc]
      -- to the left part, the operator and all behind it are a rest that its chain goes on with
      refine (ihLeft depth (op.token :: second ++ rest) ?_ ?_).trans (by simp) fun left => ?_
      · rcases hop with rfl | rfl <;> simp [Powerless, BinaryOp.token]
      · rcases hop with rfl | rfl <;> simp [Stops, BinaryOp.token, productOp?]
      · exact ReadsTo.extend (termOf_sound (factor_sound depth)) (sumOp?_eq_some.mpr ⟨hop, rfl⟩)
          ((ihRight depth rest hpower).of_stops hstops) (by simp) left
  | factor _ ih =>
      intro rest hpower
      exact (ih depth rest hpower).begin
  | @product first second op _ hop _ ihLeft ihRight =>
      intro rest hpower
      rw [List.append_assoc]
      refine (ihLeft depth (op.token :: second ++ rest) ?_).trans (by simp) fun left => ?_
      · rcases hop with rfl | rfl | rfl <;> simp [Powerless, BinaryOp.token]
      · exact ReadsTo.extend (factor_sound depth) (productOp?_eq_some.mpr ⟨hop, rfl⟩)
          (ihRight depth rest hpower) (by simp) left
  | signed op _ ih =>
      intro rest hpower
      -- every factor takes one of the nested factors that are left, and none may be left
      cases depth with
      | zero => exact .tooDeep rfl
      | succ depth =>
          rw [List.cons_append, factor_signed]
          exact (ih depth rest hpower).bind (by simp) fun tree => .of_eq _ rfl
  | power hpower' ih =>
      intro rest hpower
      cases depth with
      | zero => exact .tooDeep rfl
      | succ depth =>
          rw [factor_unsigned _ (hpower'.unsigned · rest)]
          exact ih depth rest hpower
  | atom _ ih =>
      intro rest hpower
      refine (ih depth rest).bind (List.Subset.refl _) fun tree => .of_eq tree ?_
      cases rest with
      | nil => rfl
      | cons token rest => cases token <;> first | rfl | exact absurd rfl hpower
  | raised _ _ ihBase ihExponent =>
      intro rest hpower
      rw [List.append_assoc, powerOf]
      refine (ihBase depth _).bind (by simp) fun base => ?_
      exact (ihExponent depth rest hpower).bind (by simp) fun exponent => .of_eq _ rfl
  | number text dotted =>
      intro rest
      cases hvalue : literalValue text dotted with
      | ok value =>
          refine .of_eq (.literal value) ?_
          rw [List.singleton_append, atomOf, hvalue]
          rfl
      | error error =>
          obtain ⟨rfl, hsize⟩ := literalValue_eq_error hvalue
          refine Or.inr ⟨.overflow, .size (List.mem_singleton_self _) hsize, ?_⟩
          rw [List.singleton_append, atomOf, hvalue]
          rfl
  | parentheses _ ih =>
      intro rest
      -- no operator follows the inner expression, so it ends in front of the parenthesis
      have hends : Stops sumOp? (.rightParen :: rest) := by simp [Stops, sumOp?]
      have hinner := (ih depth (.rightParen :: rest) (by simp [Powerless])
        (by simp [Stops, productOp?])).of_stops hends
      rw [List.cons_append, List.cons_append, List.append_assoc, List.singleton_append, atomOf]
      exact hinner.bind (by simp) fun tree => .of_eq _ rfl

/-- **An expression of the grammar is refused by the parser only for its bounds.** -/
theorem Matches.parse_or_exceeds {tokens : List Token} (hmatches : Matches .expr tokens) :
    (∃ tree, parse tokens = .ok tree) ∨
      ∃ error, Exceeds tokens error ∧ parse tokens = .error error := by
  have hnonempty : tokens.isEmpty = false := by simpa using hmatches.ne_nil
  have hends : Stops sumOp? [] := by simp [Stops]
  have hreads := (hmatches.reads maxDepth [] (by simp [Powerless]) (by simp [Stops])).of_stops hends
  rw [List.append_nil] at hreads
  rw [parse, hnonempty, if_neg Bool.false_ne_true]
  rcases hreads with ⟨tree, hread⟩ | ⟨error, hexceeds, hread⟩
  · exact Or.inl ⟨tree, by rw [hread]; rfl⟩
  · exact Or.inr ⟨error, hexceeds, by rw [hread]; rfl⟩

/-- What has a tree holds no numeral beyond 128 bits. -/
theorem Derives.not_isOversized {phrase : Phrase} {depth : Nat} {tokens : List Token} {tree : Expr}
    (hderives : Derives phrase depth tokens tree) {token : Token} (hmem : token ∈ tokens) :
    ¬ token.IsOversized := by
  intro hsize
  have hsymbol : token.symbol? ∈ tree.flatten.map some :=
    hderives.flatten ▸ List.mem_map_of_mem hmem
  cases token with
  | number text dotted =>
      cases dotted with
      | true => exact hsize
      | false =>
          have hlarge : ¬ ((Nat.ofDigitChars 10 text.toList 0 : Int) ≤ maxInteger) :=
            Int.not_le.mpr hsize
          simp [Token.symbol?, literalValue, hlarge, Except.toOption] at hsymbol
  | _ => exact hsize

/-! ## Refusals of a value -/

theorem bind_eq_error {ε α β : Type} {x : Except ε α} {f : α → Except ε β} {e : ε} :
    x >>= f = .error e ↔ x = .error e ∨ ∃ a, x = .ok a ∧ f a = .error e := by
  cases x <;> simp [bind, Except.bind]

/-- What an operator refuses other than integers that leave 128 bits. -/
def operatorRefusals : List Error :=
  [.divisionByZero, .moduloByZero, .exponentTooLarge, .zeroToNegativePower, .complexResult,
    .nonFinite]

theorem finite_refuses {x : Float} {error : Error} (hrefused : finite x = .error error) :
    error = .nonFinite := by
  unfold finite at hrefused
  split at hrefused <;> cases hrefused
  rfl

theorem exact_refuses {n : Int} {error : Error} (hrefused : exact n = .error error) :
    error = .overflow := by
  unfold exact at hrefused
  split at hrefused <;> cases hrefused
  rfl

theorem applyInt_refuses {op : BinaryOp} {a b : Int} {error : Error}
    (hrefused : applyInt op a b = .error error) : error ∈ operatorRefusals ∨ error = .overflow := by
  cases op <;> simp only [applyInt] at hrefused <;> (repeat' split at hrefused) <;>
    first
    | exact Or.inr (exact_refuses hrefused)
    | exact Or.inl (finite_refuses hrefused ▸ by decide)
    | (cases hrefused; decide)

theorem applyFloat_refuses {op : BinaryOp} {x y : Float} {error : Error}
    (hrefused : applyFloat op x y = .error error) : error ∈ operatorRefusals := by
  cases op <;> simp only [applyFloat] at hrefused <;> (repeat' split at hrefused) <;>
    first
    | exact finite_refuses hrefused ▸ by decide
    | (cases hrefused; decide)

/-- An operator overflows only on integers. -/
theorem apply_refuses {op : BinaryOp} {a b : Number} {error : Error}
    (hrefused : apply op a b = .error error) :
    error ∈ operatorRefusals ∨ error = .overflow ∧ ∃ n, a = .int n := by
  unfold apply at hrefused
  split at hrefused
  · exact (applyInt_refuses hrefused).imp_right fun hoverflow => ⟨hoverflow, _, rfl⟩
  · exact Or.inl (applyFloat_refuses hrefused)

theorem applySign_refuses {op : UnaryOp} {a : Number} {error : Error}
    (hrefused : applySign op a = .error error) : error = .overflow ∧ ∃ n, a = .int n := by
  unfold applySign at hrefused
  split at hrefused
  · cases hrefused
  · exact ⟨exact_refuses hrefused, _, rfl⟩
  · cases hrefused

/-- **What a value is refused for.**  An integer overflows only where literals are not promoted. -/
theorem Expr.value_refuses {tree : Expr} {promote : Bool} {error : Error}
    (hrefused : tree.value promote = .error error) :
    error ∈ operatorRefusals ∨ error = .overflow ∧ promote = false := by
  induction tree with
  | literal value => cases hrefused
  | group inner ih => exact ih hrefused
  | unary op operand ih =>
      rcases bind_eq_error.mp hrefused with hoperand | ⟨a, ha, hsign⟩
      · exact ih hoperand
      · -- The operand that overflowed is an integer, and a promoted one has doubles only.
        obtain ⟨rfl, n, rfl⟩ := applySign_refuses hsign
        cases promote with
        | true => cases Expr.value_promoted_isFloat ha
        | false => exact Or.inr ⟨rfl, rfl⟩
  | binary op left right ihLeft ihRight =>
      rcases bind_eq_error.mp hrefused with hleft | ⟨a, ha, hrest⟩
      · exact ihLeft hleft
      rcases bind_eq_error.mp hrest with hright | ⟨b, hb, happly⟩
      · exact ihRight hright
      rcases apply_refuses happly with hoperator | ⟨rfl, n, rfl⟩
      · exact Or.inl hoperator
      · cases promote with
        | true => cases Expr.value_promoted_isFloat ha
        | false => exact Or.inr ⟨rfl, rfl⟩

/-- A text of tokens is refused by the parser, or for its value. -/
theorem evaluate_eq_error_iff {text : String} {tokens : List Token} {error : Error}
    (hlength : text.utf8ByteSize ≤ maxLength) (htokens : tokenize text = .ok tokens) :
    evaluate text = .error error ↔ parse tokens = .error error ∨
      ∃ tree, parse tokens = .ok tree ∧ tree.value tree.hasFloat = .error error := by
  rw [evaluate, if_neg (Nat.not_lt.mpr hlength), htokens]
  exact bind_eq_error (x := parse tokens)

end ToolAssistant.Arithmetic
