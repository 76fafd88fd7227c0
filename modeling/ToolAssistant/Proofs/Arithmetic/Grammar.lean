import ToolAssistant.Arithmetic.Expr
import Mathlib.Data.List.Basic

/-!
# The parser reads exactly its grammar

`Derives` is the grammar of expressions as an inductive relation between tokens and trees; it knows
nothing of cursors, look-ahead or fuel.  The main statement says that `parse` accepts a list of
tokens with a tree exactly when the grammar derives the list with that tree, that the tree flattens
back to the list, and that no other tree flattens to it.

## Strategy

* **Sound.**  What a parser takes from the front of a list, its phrase derives.  The parsers are
  built from the parser for factors, so this goes by induction on the nesting that is left.
* **Complete.**  A derived list is read back by its parser in front of any rest that the phrase
  cannot be continued with.  For a chain the statement has to say more: in front of a rest that may
  go on with an operator, the parser is where the loop of `chain` is after the derived part.
* **Unambiguous.**  Both directions hold for every bound on the nesting, and two derivations always
  have a common bound.
-/

namespace ToolAssistant.Arithmetic

/-! ## The grammar -/

/-- The nonterminals. -/
inductive Phrase where
  | expr
  | term
  | factor
  | power
  | atom

/-- The token of a sign. -/
def UnaryOp.token : UnaryOp → Token
  | .plus => .plus
  | .neg => .minus

/-- The token of a binary operator. -/
def BinaryOp.token : BinaryOp → Token
  | .add => .plus
  | .sub => .minus
  | .mul => .star
  | .div => .slash
  | .mod => .percent
  | .pow => .doubleStar

/-- `Derives phrase depth tokens tree`: the phrase derives the tokens with this tree, and on no path
of the derivation are more than `depth` factors nested.  A chain grows at its right end, so its tree
leans to the left. -/
inductive Derives : Phrase → Nat → List Token → Expr → Prop where
  | term {depth tokens tree} : Derives .term depth tokens tree → Derives .expr depth tokens tree
  | sum {depth first second left right op} :
      Derives .expr depth first left → op = .add ∨ op = .sub →
      Derives .term depth second right →
      Derives .expr depth (first ++ op.token :: second) (.binary op left right)
  | factor {depth tokens tree} :
      Derives .factor depth tokens tree → Derives .term depth tokens tree
  | product {depth first second left right op} :
      Derives .term depth first left → op = .mul ∨ op = .div ∨ op = .mod →
      Derives .factor depth second right →
      Derives .term depth (first ++ op.token :: second) (.binary op left right)
  | signed {depth tokens tree} (op : UnaryOp) :
      Derives .factor depth tokens tree →
      Derives .factor (depth + 1) (op.token :: tokens) (.unary op tree)
  | power {depth tokens tree} :
      Derives .power depth tokens tree → Derives .factor (depth + 1) tokens tree
  | atom {depth tokens tree} : Derives .atom depth tokens tree → Derives .power depth tokens tree
  | raised {depth first second base exponent} :
      Derives .atom depth first base → Derives .factor depth second exponent →
      Derives .power depth (first ++ .doubleStar :: second) (.binary .pow base exponent)
  | decimal {depth} (text : String) :
      Derives .atom depth [.number text true] (.literal (.float (floatOfLiteral text.toList)))
  | integer {depth} (text : String) :
      (Nat.ofDigitChars 10 text.toList 0 : Int) ≤ maxInteger →
      Derives .atom depth [.number text false]
        (.literal (.int (Nat.ofDigitChars 10 text.toList 0)))
  | parentheses {depth tokens tree} :
      Derives .expr depth tokens tree →
      Derives .atom depth (.leftParen :: tokens ++ [.rightParen]) (.group tree)

/-- A deeper nesting may always be allowed. -/
theorem Derives.mono {phrase : Phrase} {depth larger : Nat} {tokens : List Token} {tree : Expr}
    (hderives : Derives phrase depth tokens tree) (hle : depth ≤ larger) :
    Derives phrase larger tokens tree := by
  induction hderives generalizing larger with
  | term _ ih => exact .term (ih hle)
  | sum _ hop _ ihLeft ihRight => exact .sum (ihLeft hle) hop (ihRight hle)
  | factor _ ih => exact .factor (ih hle)
  | product _ hop _ ihLeft ihRight => exact .product (ihLeft hle) hop (ihRight hle)
  | signed op _ ih =>
      obtain ⟨larger, rfl⟩ := Nat.exists_eq_add_of_le' (Nat.one_le_of_lt hle)
      exact .signed op (ih (Nat.le_of_succ_le_succ hle))
  | power _ ih =>
      obtain ⟨larger, rfl⟩ := Nat.exists_eq_add_of_le' (Nat.one_le_of_lt hle)
      exact .power (ih (Nat.le_of_succ_le_succ hle))
  | atom _ ih => exact .atom (ih hle)
  | raised _ _ ihBase ihExponent => exact .raised (ihBase hle) (ihExponent hle)
  | decimal text => exact .decimal text
  | integer text hfits => exact .integer text hfits
  | parentheses _ ih => exact .parentheses (ih hle)

/-! ## Operators as tokens -/

theorem sumOp?_eq_some {token : Token} {op : BinaryOp} :
    sumOp? token = some op ↔ (op = .add ∨ op = .sub) ∧ token = op.token := by
  cases token <;> cases op <;> simp [sumOp?, BinaryOp.token]

theorem productOp?_eq_some {token : Token} {op : BinaryOp} :
    productOp? token = some op ↔ (op = .mul ∨ op = .div ∨ op = .mod) ∧ token = op.token := by
  cases token <;> cases op <;> simp [productOp?, BinaryOp.token]

/-! ## Parsers are sound -/

theorem bind_eq_ok {ε α β : Type} {first : Except ε α} {next : α → Except ε β} {b : β} :
    first >>= next = .ok b ↔ ∃ a, first = .ok a ∧ next a = .ok b := by
  cases first <;> simp [bind, Except.bind]

/-- Whatever the parser takes from the front of a list of tokens, the phrase derives. -/
def Sound (parser : Parser) (phrase : Phrase) (depth : Nat) : Prop :=
  ∀ tokens tree rest, parser tokens = .ok (tree, rest) →
    ∃ used, tokens = used ++ rest ∧ Derives phrase depth used tree

/-- The loop of a chain extends what has been derived so far. -/
private theorem chain_sound {operand : Parser} {op? : Token → Option BinaryOp}
    {link whole : Phrase} {depth : Nat} (hoperand : Sound operand link depth)
    (hextend : ∀ first left token op second right, Derives whole depth first left →
      op? token = some op → Derives link depth second right →
      Derives whole depth (first ++ token :: second) (.binary op left right)) :
    ∀ fuel first left tokens tree rest, Derives whole depth first left →
      chain operand op? fuel left tokens = .ok (tree, rest) →
      ∃ used, tokens = used ++ rest ∧ Derives whole depth (first ++ used) tree := by
  intro fuel
  induction fuel with
  | zero =>
      intro first left tokens tree rest hfirst hchain
      simp only [chain, Except.ok.injEq, Prod.mk.injEq] at hchain
      obtain ⟨rfl, rfl⟩ := hchain
      exact ⟨[], rfl, by simpa using hfirst⟩
  | succ fuel ih =>
      intro first left tokens tree rest hfirst hchain
      cases tokens with
      | nil =>
          simp only [chain, Except.ok.injEq, Prod.mk.injEq] at hchain
          obtain ⟨rfl, rfl⟩ := hchain
          exact ⟨[], rfl, by simpa using hfirst⟩
      | cons token tokens =>
          cases hop : op? token with
          | none =>
              simp only [chain, hop, Except.ok.injEq, Prod.mk.injEq] at hchain
              obtain ⟨rfl, rfl⟩ := hchain
              exact ⟨[], rfl, by simpa using hfirst⟩
          | some op =>
              simp only [chain, hop, bind_eq_ok] at hchain
              obtain ⟨⟨right, between⟩, hright, hmore⟩ := hchain
              obtain ⟨second, rfl, hsecond⟩ := hoperand _ _ _ hright
              -- the operator and its operand join what is derived, and the loop goes on from there
              obtain ⟨used, rfl, hused⟩ := ih _ _ _ _ _
                (hextend _ _ _ _ _ _ hfirst hop hsecond) hmore
              exact ⟨token :: second ++ used, by simp, by simpa using hused⟩

private theorem chainOf_sound {operand : Parser} {op? : Token → Option BinaryOp}
    {link whole : Phrase} {depth : Nat} (hoperand : Sound operand link depth)
    (hsingle : ∀ first left, Derives link depth first left → Derives whole depth first left)
    (hextend : ∀ first left token op second right, Derives whole depth first left →
      op? token = some op → Derives link depth second right →
      Derives whole depth (first ++ token :: second) (.binary op left right)) :
    Sound (chainOf operand op?) whole depth := by
  intro tokens tree rest hread
  simp only [chainOf, bind_eq_ok] at hread
  obtain ⟨⟨left, between⟩, hleft, hmore⟩ := hread
  obtain ⟨first, rfl, hfirst⟩ := hoperand _ _ _ hleft
  obtain ⟨used, rfl, hused⟩ :=
    chain_sound hoperand hextend _ _ _ _ _ _ (hsingle _ _ hfirst) hmore
  exact ⟨first ++ used, by simp, hused⟩

theorem termOf_sound {factor : Parser} {depth : Nat} (hfactor : Sound factor .factor depth) :
    Sound (termOf factor) .term depth := by
  refine chainOf_sound hfactor (fun _ _ => .factor) ?_
  intro first left token op second right hleft hop hright
  obtain ⟨hproduct, rfl⟩ := productOp?_eq_some.mp hop
  exact .product hleft hproduct hright

theorem exprOf_sound {factor : Parser} {depth : Nat} (hfactor : Sound factor .factor depth) :
    Sound (exprOf factor) .expr depth := by
  refine chainOf_sound (termOf_sound hfactor) (fun _ _ => .term) ?_
  intro first left token op second right hleft hop hright
  obtain ⟨hsum, rfl⟩ := sumOp?_eq_some.mp hop
  exact .sum hleft hsum hright

theorem literal_sound {depth : Nat} {text : String} {dotted : Bool} {value : Number}
    (hvalue : literalValue text dotted = .ok value) :
    Derives .atom depth [.number text dotted] (.literal value) := by
  cases dotted with
  | true =>
      cases hvalue
      exact .decimal text
  | false =>
      simp only [literalValue, Bool.false_eq_true, if_false] at hvalue
      split at hvalue
      · next hfits =>
          cases hvalue
          exact .integer text hfits
      · cases hvalue

theorem atomOf_sound {factor : Parser} {depth : Nat} (hfactor : Sound factor .factor depth) :
    Sound (atomOf factor) .atom depth := by
  intro tokens tree rest hread
  unfold atomOf at hread
  split at hread
  · next text dotted tokens =>
      obtain ⟨value, hvalue, hpair⟩ := bind_eq_ok.mp hread
      cases hpair
      exact ⟨[.number text dotted], rfl, literal_sound hvalue⟩
  · next tokens =>
      obtain ⟨⟨inner, between⟩, hinner, hclose⟩ := bind_eq_ok.mp hread
      obtain ⟨used, rfl, hused⟩ := exprOf_sound hfactor _ _ _ hinner
      -- only a closing parenthesis behind the expression makes an atom of it
      dsimp only at hclose
      split at hclose
      · cases hclose
        exact ⟨.leftParen :: used ++ [.rightParen], by simp, .parentheses hused⟩
      · cases hclose
      · cases hclose
  all_goals cases hread

theorem powerOf_sound {factor : Parser} {depth : Nat} (hfactor : Sound factor .factor depth) :
    Sound (powerOf factor) .power depth := by
  intro tokens tree rest hread
  obtain ⟨⟨base, between⟩, hbase, hmore⟩ := bind_eq_ok.mp hread
  obtain ⟨first, rfl, hfirst⟩ := atomOf_sound hfactor _ _ _ hbase
  dsimp only at hmore
  split at hmore
  · obtain ⟨⟨exponent, rest'⟩, hexponent, hpair⟩ := bind_eq_ok.mp hmore
    cases hpair
    obtain ⟨second, rfl, hsecond⟩ := hfactor _ _ _ hexponent
    exact ⟨first ++ .doubleStar :: second, by simp, .raised hfirst hsecond⟩
  · cases hmore
    exact ⟨first, rfl, .atom hfirst⟩

theorem factor_signed (depth : Nat) (op : UnaryOp) (tokens : List Token) :
    factor (depth + 1) (op.token :: tokens) = (factor depth tokens >>= fun (operand, rest) =>
      .ok (.unary op operand, rest)) := by
  cases op <;> rfl

theorem factor_unsigned (depth : Nat) {tokens : List Token}
    (hunsigned : ∀ (op : UnaryOp) rest, tokens ≠ op.token :: rest) :
    factor (depth + 1) tokens = powerOf (factor depth) tokens := by
  rw [factor]
  · exact fun rest hplus => hunsigned .plus rest hplus
  · exact fun rest hminus => hunsigned .neg rest hminus

theorem factor_sound (depth : Nat) : Sound (factor depth) .factor depth := by
  induction depth with
  | zero =>
      intro tokens tree rest hread
      simp [factor] at hread
  | succ depth ih =>
      intro tokens tree rest hread
      by_cases hsigned : ∃ (op : UnaryOp) (more : List Token), tokens = op.token :: more
      · obtain ⟨op, more, rfl⟩ := hsigned
        rw [factor_signed, bind_eq_ok] at hread
        obtain ⟨⟨operand, between⟩, hoperand, hpair⟩ := hread
        cases hpair
        obtain ⟨used, rfl, hused⟩ := ih _ _ _ hoperand
        exact ⟨op.token :: used, rfl, .signed op hused⟩
      · rw [factor_unsigned depth fun op more heq => hsigned ⟨op, more, heq⟩] at hread
        obtain ⟨used, rfl, hused⟩ := powerOf_sound ih _ _ _ hread
        exact ⟨used, rfl, .power hused⟩

/-! ## Parsers are complete -/

/-- No token in front of the list carries on with an operator from `op?`. -/
def Stops (op? : Token → Option BinaryOp) (tokens : List Token) : Prop :=
  ∀ token ∈ tokens.head?, op? token = none

/-- No power stands in front of the list. -/
def Powerless (tokens : List Token) : Prop :=
  tokens.head? ≠ some .doubleStar

/-- What the parser of a phrase does in front of `rest`, after tokens that the phrase derives with
`tree`.  A chain may go on there, so its parser is where the loop is that extends the chain. -/
def ReadsBack (depth : Nat) (tokens : List Token) (tree : Expr) : Phrase → Prop
  | .expr => ∀ rest, Powerless rest → Stops productOp? rest →
      exprOf (factor depth) (tokens ++ rest) =
        chain (termOf (factor depth)) sumOp? rest.length tree rest
  | .term => ∀ rest, Powerless rest →
      termOf (factor depth) (tokens ++ rest) = chain (factor depth) productOp? rest.length tree rest
  | .factor => ∀ rest, Powerless rest → factor depth (tokens ++ rest) = .ok (tree, rest)
  | .power => ∀ rest, Powerless rest → powerOf (factor depth) (tokens ++ rest) = .ok (tree, rest)
  | .atom => ∀ rest, atomOf (factor depth) (tokens ++ rest) = .ok (tree, rest)

theorem chain_of_stops {operand : Parser} {op? : Token → Option BinaryOp} {rest : List Token}
    (hstops : Stops op? rest) (fuel : Nat) (left : Expr) :
    chain operand op? fuel left rest = .ok (left, rest) := by
  cases rest with
  | nil => cases fuel <;> rfl
  | cons token rest =>
      cases fuel with
      | zero => rfl
      | succ fuel => simp [chain, hstops token rfl]

/-- Steps beyond the number of tokens change nothing in a chain. -/
theorem chain_fuel_irrelevant {operand : Parser} {op? : Token → Option BinaryOp} {phrase : Phrase}
    {depth : Nat} (hoperand : Sound operand phrase depth) :
    ∀ (fuel other : Nat) (left : Expr) (tokens : List Token), tokens.length ≤ fuel →
      tokens.length ≤ other →
      chain operand op? fuel left tokens = chain operand op? other left tokens := by
  intro fuel
  induction fuel with
  | zero =>
      intro other left tokens hfuel _
      rw [List.eq_nil_of_length_eq_zero (Nat.le_zero.mp hfuel)]
      cases other <;> rfl
  | succ fuel ih =>
      intro other left tokens hfuel hother
      cases tokens with
      | nil => cases other <;> rfl
      | cons token tokens =>
          obtain ⟨other, rfl⟩ := Nat.exists_eq_add_of_le' (Nat.one_le_of_lt hother)
          rw [List.length_cons, Nat.add_le_add_iff_right] at hfuel hother
          cases hop : op? token with
          | none => simp only [chain, hop]
          | some op =>
              cases hright : operand tokens with
              | error error => simp only [chain, hop, hright, bind, Except.bind]
              | ok pair =>
                  -- an operand takes its tokens off the front, so no more are left than before
                  obtain ⟨right, rest⟩ := pair
                  obtain ⟨used, rfl, -⟩ := hoperand _ _ _ hright
                  rw [List.length_append] at hfuel hother
                  simp only [chain, hop, hright, bind, Except.bind]
                  exact ih other _ rest (by omega) (by omega)

/-- A chain goes on with an operator and an operand that are there. -/
theorem chain_extend {operand : Parser} {op? : Token → Option BinaryOp} {phrase : Phrase}
    {depth : Nat} (hoperand : Sound operand phrase depth) {token : Token} {op : BinaryOp}
    (hop : op? token = some op) {second rest : List Token} {right : Expr}
    (hright : operand (second ++ rest) = .ok (right, rest)) (left : Expr) :
    chain operand op? (token :: second ++ rest).length left (token :: second ++ rest) =
      chain operand op? rest.length (.binary op left right) rest := by
  rw [List.cons_append, List.length_cons]
  simp only [chain, hop, hright, bind, Except.bind]
  exact chain_fuel_irrelevant hoperand _ _ _ _ (by simp) (Nat.le_refl _)

/-- A power begins with a number or an opening parenthesis, never with a sign. -/
theorem Derives.unsigned {depth : Nat} {tokens : List Token} {tree : Expr}
    (hderives : Derives .power depth tokens tree) (op : UnaryOp) (rest more : List Token) :
    tokens ++ rest ≠ op.token :: more := by
  have hatom : ∀ {first : List Token} {base : Expr} (rest : List Token),
      Derives .atom depth first base → first ++ rest ≠ op.token :: more := by
    intro first base rest hbase
    cases hbase <;> cases op <;> simp [UnaryOp.token]
  cases hderives with
  | atom hbase => exact hatom rest hbase
  | raised hbase _ =>
      rw [List.append_assoc]
      exact hatom _ hbase

/-- Every derived list of tokens is read back, in front of any rest that it does not run into. -/
theorem Derives.readsBack {phrase : Phrase} {depth : Nat} {tokens : List Token} {tree : Expr}
    (hderives : Derives phrase depth tokens tree) : ReadsBack depth tokens tree phrase := by
  induction hderives with
  | term _ ih =>
      intro rest hpower hstops
      rw [exprOf, chainOf, ih rest hpower, chain_of_stops hstops]
      rfl
  | @sum depth first second left right op _ hop _ ihLeft ihRight =>
      -- the left part leaves the loop in front of the operator, and `chain_extend` takes it over
      intro rest hpower hstops
      have hsum : sumOp? op.token = some op := sumOp?_eq_some.mpr ⟨hop, rfl⟩
      have hright : termOf (Arithmetic.factor depth) (second ++ rest) = .ok (right, rest) := by
        rw [ihRight rest hpower, chain_of_stops hstops]
      rw [List.append_assoc, ihLeft]
      · exact chain_extend (termOf_sound (factor_sound depth)) hsum hright left
      · rcases hop with rfl | rfl <;> simp [Powerless, BinaryOp.token]
      · rcases hop with rfl | rfl <;> simp [Stops, BinaryOp.token, productOp?]
  | @factor depth tokens tree _ ih =>
      intro rest hpower
      rw [termOf, chainOf, ih rest hpower]
      rfl
  | @product depth first second left right op _ hop _ ihLeft ihRight =>
      intro rest hpower
      have hproduct : productOp? op.token = some op := productOp?_eq_some.mpr ⟨hop, rfl⟩
      rw [List.append_assoc, ihLeft]
      · exact chain_extend (factor_sound depth) hproduct (ihRight rest hpower) left
      · rcases hop with rfl | rfl | rfl <;> simp [Powerless, BinaryOp.token]
  | signed op _ ih =>
      intro rest hpower
      rw [List.cons_append, factor_signed, ih rest hpower]
      rfl
  | power hderives ih =>
      intro rest hpower
      rw [factor_unsigned _ (hderives.unsigned · rest)]
      exact ih rest hpower
  | @atom depth tokens tree _ ih =>
      intro rest hpower
      rw [powerOf, ih rest]
      -- any token but the operator of powers ends the atom
      cases rest with
      | nil => rfl
      | cons token rest =>
          cases token <;> first | rfl | exact absurd rfl hpower
  | raised _ _ ihBase ihExponent =>
      intro rest hpower
      rw [List.append_assoc, powerOf, ihBase]
      simp only [List.cons_append, bind, Except.bind, ihExponent rest hpower]
      rfl
  | decimal text => exact fun _ => rfl
  | integer text hfits =>
      intro rest
      simp only [List.singleton_append, atomOf, literalValue, Bool.false_eq_true, if_false, hfits,
        if_true, bind, Except.bind]
      rfl
  | parentheses _ ih =>
      intro rest
      -- the closing parenthesis is a rest that the inner expression cannot run into
      have hinner := ih (.rightParen :: rest) (by simp [Powerless]) (by simp [Stops, productOp?])
      rw [chain_of_stops (by simp [Stops, sumOp?])] at hinner
      simp only [List.cons_append, List.append_assoc, List.nil_append, atomOf, hinner, bind,
        Except.bind]

/-- The parser of expressions takes a whole list of tokens exactly when the grammar derives it. -/
theorem exprOf_eq_ok_nil_iff (depth : Nat) (tokens : List Token) (tree : Expr) :
    exprOf (factor depth) tokens = .ok (tree, []) ↔ Derives .expr depth tokens tree := by
  constructor
  · intro hread
    obtain ⟨used, rfl, hused⟩ := exprOf_sound (factor_sound depth) _ _ _ hread
    simpa using hused
  · intro hderives
    have hread := hderives.readsBack [] (by simp [Powerless]) (by simp [Stops])
    rwa [List.append_nil, chain_of_stops (by simp [Stops])] at hread

theorem parse_iff_derives (tokens : List Token) (tree : Expr) :
    parse tokens = .ok tree ↔ Derives .expr maxDepth tokens tree := by
  rw [← exprOf_eq_ok_nil_iff]
  cases tokens with
  | nil =>
      -- `parse` refuses no tokens up front; the parser of expressions would refuse them as well
      simp [parse, exprOf, termOf, chainOf, maxDepth, factor, powerOf, atomOf, bind, Except.bind]
  | cons token tokens =>
      simp only [parse, List.isEmpty_cons, Bool.false_eq_true, if_false, bind_eq_ok]
      constructor
      · rintro ⟨⟨tree', rest⟩, hread, hend⟩
        cases rest with
        | nil =>
            cases hend
            exact hread
        | cons _ _ => cases hend
      · exact fun hread => ⟨(tree, []), hread, rfl⟩

/-- A list of tokens has one tree, however deep its derivations nest. -/
theorem Derives.unique {depth depth' : Nat} {tokens : List Token} {tree tree' : Expr}
    (hderives : Derives .expr depth tokens tree) (hderives' : Derives .expr depth' tokens tree') :
    tree = tree' := by
  have hread := (exprOf_eq_ok_nil_iff _ _ _).mpr (hderives.mono (Nat.le_max_left depth depth'))
  have hread' := (exprOf_eq_ok_nil_iff _ _ _).mpr (hderives'.mono (Nat.le_max_right depth depth'))
  rw [hread] at hread'
  cases hread'
  rfl

/-! ## Trees flatten back to their tokens -/

/-- A token up to its spelling: a number by its value, any other token as it is. -/
inductive Symbol where
  | number (value : Number)
  | mark (token : Token)

/-- The symbol of a token; an integer beyond 128 bits has none. -/
def Token.symbol? : Token → Option Symbol
  | .number text dotted => (literalValue text dotted).toOption.map .number
  | token => some (.mark token)

/-- The symbols that an expression is written with. -/
def Expr.flatten : Expr → List Symbol
  | .literal value => [.number value]
  | .group inner => .mark .leftParen :: inner.flatten ++ [.mark .rightParen]
  | .unary op operand => .mark op.token :: operand.flatten
  | .binary op left right => left.flatten ++ .mark op.token :: right.flatten

@[simp] theorem UnaryOp.symbol?_token (op : UnaryOp) :
    op.token.symbol? = some (.mark op.token) := by
  cases op <;> rfl

@[simp] theorem BinaryOp.symbol?_token (op : BinaryOp) :
    op.token.symbol? = some (.mark op.token) := by
  cases op <;> rfl

/-- A tree is written with the symbols of the tokens that it is derived from, each once and in
their order. -/
theorem Derives.flatten {phrase : Phrase} {depth : Nat} {tokens : List Token} {tree : Expr}
    (hderives : Derives phrase depth tokens tree) :
    tokens.map Token.symbol? = tree.flatten.map some := by
  induction hderives with
  | term _ ih | factor _ ih | power _ ih | atom _ ih => exact ih
  | sum _ _ _ ihLeft ihRight | product _ _ _ ihLeft ihRight =>
      simp [Expr.flatten, ihLeft, ihRight]
  | signed op _ ih => simp [Expr.flatten, ih]
  | raised _ _ ihBase ihExponent =>
      simp [Expr.flatten, ihBase, ihExponent, Token.symbol?, BinaryOp.token]
  | decimal text => simp [Expr.flatten, Token.symbol?, literalValue, Except.toOption]
  | integer text hfits => simp [Expr.flatten, Token.symbol?, literalValue, hfits, Except.toOption]
  | parentheses _ ih => simp [Expr.flatten, ih, Token.symbol?]

theorem Token.eq_of_symbol?_eq_mark {token mark : Token}
    (hsymbol : token.symbol? = some (.mark mark)) : token = mark := by
  cases token <;> simp_all [Token.symbol?]

/-- The symbol of a number is that of a number token with this value. -/
theorem Token.eq_number_of_symbol? {token : Token} {value : Number}
    (hsymbol : token.symbol? = some (.number value)) :
    ∃ text dotted, token = .number text dotted ∧ literalValue text dotted = .ok value := by
  cases token with
  | number text dotted =>
      cases hvalue : literalValue text dotted with
      | error error => simp [symbol?, hvalue, Except.toOption] at hsymbol
      | ok number =>
          simp only [symbol?, hvalue, Except.toOption, Option.map_some, Option.some.injEq,
            Symbol.number.injEq] at hsymbol
          exact ⟨text, dotted, rfl, hsymbol ▸ hvalue⟩
  | _ => simp [symbol?] at hsymbol

theorem Token.derives_of_symbol?_eq_number {token : Token} {value : Number} {depth : Nat}
    (hsymbol : token.symbol? = some (.number value)) :
    Derives .atom depth [token] (.literal value) := by
  obtain ⟨text, dotted, rfl, hvalue⟩ := token.eq_number_of_symbol? hsymbol
  exact literal_sound hvalue

/-- A list with the symbols of two parts around an operator falls into two such parts. -/
private theorem split_around {first second other : List Token} (op : BinaryOp)
    (hsymbols : other.map Token.symbol? = (first ++ op.token :: second).map Token.symbol?) :
    ∃ first' second', other = first' ++ op.token :: second' ∧
      first'.map Token.symbol? = first.map Token.symbol? ∧
      second'.map Token.symbol? = second.map Token.symbol? := by
  rw [List.map_append, List.map_cons, List.map_eq_append_iff] at hsymbols
  obtain ⟨first', more, rfl, hfirst, hmore⟩ := hsymbols
  obtain ⟨token, second', rfl, htoken, hsecond⟩ := List.map_eq_cons_iff.mp hmore
  rw [BinaryOp.symbol?_token] at htoken
  obtain rfl := Token.eq_of_symbol?_eq_mark htoken
  exact ⟨first', second', rfl, hfirst, hsecond⟩

/-- A derivation depends on its tokens only up to their spelling. -/
theorem Derives.respell {phrase : Phrase} {depth : Nat} {tokens other : List Token} {tree : Expr}
    (hderives : Derives phrase depth tokens tree)
    (hsymbols : other.map Token.symbol? = tokens.map Token.symbol?) :
    Derives phrase depth other tree := by
  induction hderives generalizing other with
  | term _ ih => exact .term (ih hsymbols)
  | factor _ ih => exact .factor (ih hsymbols)
  | power _ ih => exact .power (ih hsymbols)
  | atom _ ih => exact .atom (ih hsymbols)
  | sum _ hop _ ihLeft ihRight =>
      obtain ⟨first, second, rfl, hfirst, hsecond⟩ := split_around _ hsymbols
      exact .sum (ihLeft hfirst) hop (ihRight hsecond)
  | product _ hop _ ihLeft ihRight =>
      obtain ⟨first, second, rfl, hfirst, hsecond⟩ := split_around _ hsymbols
      exact .product (ihLeft hfirst) hop (ihRight hsecond)
  | signed op _ ih =>
      obtain ⟨token, more, rfl, htoken, hmore⟩ := List.map_eq_cons_iff.mp hsymbols
      rw [UnaryOp.symbol?_token] at htoken
      obtain rfl := Token.eq_of_symbol?_eq_mark htoken
      exact .signed op (ih hmore)
  | raised _ _ ihBase ihExponent =>
      obtain ⟨first, second, rfl, hfirst, hsecond⟩ := split_around .pow hsymbols
      exact .raised (ihBase hfirst) (ihExponent hsecond)
  | decimal text =>
      -- the other number may be spelled differently, even with a point instead of without
      obtain ⟨token, rest, rfl, htoken, hrest⟩ := List.map_eq_cons_iff.mp hsymbols
      obtain rfl := List.map_eq_nil_iff.mp hrest
      exact Token.derives_of_symbol?_eq_number htoken
  | integer text hfits =>
      obtain ⟨token, rest, rfl, htoken, hrest⟩ := List.map_eq_cons_iff.mp hsymbols
      obtain rfl := List.map_eq_nil_iff.mp hrest
      refine Token.derives_of_symbol?_eq_number (htoken.trans ?_)
      simp [Token.symbol?, literalValue, hfits, Except.toOption]
  | @parentheses depth tokens tree _ ih =>
      rw [List.cons_append, List.map_cons, List.map_append, List.map_eq_cons_iff] at hsymbols
      obtain ⟨opening, more, rfl, hopening, hmore⟩ := hsymbols
      obtain ⟨inner, closing, rfl, hinner, hclosing⟩ := List.map_eq_append_iff.mp hmore
      obtain ⟨token, rest, rfl, htoken, hrest⟩ := List.map_eq_cons_iff.mp hclosing
      obtain rfl := List.map_eq_nil_iff.mp hrest
      obtain rfl := Token.eq_of_symbol?_eq_mark hopening
      obtain rfl := Token.eq_of_symbol?_eq_mark htoken
      exact .parentheses (ih hinner)

/-- Two trees that are written with the same symbols are the same tree. -/
theorem Derives.eq_of_flatten_eq {depth depth' : Nat} {tokens other : List Token}
    {tree tree' : Expr} (hderives : Derives .expr depth tokens tree)
    (hderives' : Derives .expr depth' other tree') (hflatten : tree'.flatten = tree.flatten) :
    tree' = tree := by
  refine (hderives.respell ?_).unique hderives' |>.symm
  rw [hderives'.flatten, hflatten, hderives.flatten]

/-! ## The main statement -/

/-- **The parser accepts exactly its grammar.**  A list of tokens is read as a tree exactly when the
grammar derives it with that tree and at most `maxDepth` nested factors.  The tree is then written
with the symbols of these tokens, none skipped and none read twice, and it is the only tree that is
written so. -/
theorem parse_accepts_grammar (tokens : List Token) (tree : Expr) :
    (parse tokens = .ok tree ↔ Derives .expr maxDepth tokens tree) ∧
      (parse tokens = .ok tree →
        tokens.map Token.symbol? = tree.flatten.map some ∧
          ∀ depth other tree', Derives .expr depth other tree' →
            tree'.flatten = tree.flatten → tree' = tree) := by
  refine ⟨parse_iff_derives tokens tree, fun hparse => ?_⟩
  have hderives := (parse_iff_derives tokens tree).mp hparse
  exact ⟨hderives.flatten, fun _ _ _ hother => hderives.eq_of_flatten_eq hother⟩

/-- `-2 ** (3 - 01)` is the negation of a power, and `2`, `3`, `01` stand for their values. -/
theorem parse_accepts_negated_power :
    let tokens : List Token :=
      [.minus, .number "2" false, .doubleStar, .leftParen, .number "3" false, .minus,
        .number "01" false, .rightParen]
    let tree : Expr :=
      .unary .neg (.binary .pow (.literal (.int 2))
        (.group (.binary .sub (.literal (.int 3)) (.literal (.int 1)))))
    parse tokens = .ok tree ∧ Derives .expr maxDepth tokens tree ∧
      tokens.map Token.symbol? = tree.flatten.map some := by
  intro tokens tree
  have hparse : parse tokens = .ok tree := rfl
  exact ⟨hparse, (parse_accepts_grammar tokens tree).1.mp hparse,
    ((parse_accepts_grammar tokens tree).2 hparse).1⟩

end ToolAssistant.Arithmetic
