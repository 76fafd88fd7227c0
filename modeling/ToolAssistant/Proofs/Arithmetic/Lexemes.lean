import Mathlib
import ToolAssistant.Proofs.Arithmetic.Integers
import ToolAssistant.Proofs.Text.Blank

/-!
# The tokenizer reads exactly the lexical language

`Lexes` is the lexical language as a relation between a text and its tokens; it knows nothing of a
scanner that is in the middle of a number.  A text is a sequence of blanks and lexemes.  Each lexeme
is the longest one at its place, a number has no point, underscore, letter or digit directly behind
it, and a slash no other slash.  The main statement says that `tokenize` accepts exactly the texts
of this language with their tokens.

## Strategy

* **Sound.**  The scanner carries the number that it is in the middle of, which is always the
  beginning of a numeral.  Where it emits this number, the next character shows that the numeral
  ends, so what has been read is a lexeme in front of the rest.
* **Complete.**  One step lemma for a blank, one for numbers and one for marks take the scanner from
  the front of a lexeme to the front of what follows it.
-/

namespace ToolAssistant.Arithmetic

/-! ## The lexical language -/

/-- A numeral: ASCII digits with at most one point and at least one digit. -/
structure IsNumeral (text : List Char) : Prop where
  characters : ∀ c ∈ text, c.isDigit = true ∨ c = '.'
  point : text.count '.' ≤ 1
  digit : ∃ c ∈ text, c.isDigit = true

instance (text : List Char) : Decidable (IsNumeral text) :=
  decidable_of_iff (text.all (fun c => c.isDigit || c == '.') = true ∧ text.count '.' ≤ 1 ∧
      text.any Char.isDigit = true)
    ⟨fun ⟨hcharacters, hpoint, hdigit⟩ =>
      ⟨by simpa using hcharacters, hpoint, by simpa using hdigit⟩,
      fun hnumeral => ⟨by simpa using hnumeral.characters, hnumeral.point,
        by simpa using hnumeral.digit⟩⟩

/-- The characters that a token is written with. -/
def Token.spelling : Token → List Char
  | .number text _ => text.toList
  | .plus => ['+']
  | .minus => ['-']
  | .star => ['*']
  | .doubleStar => ['*', '*']
  | .slash => ['/']
  | .percent => ['%']
  | .leftParen => ['(']
  | .rightParen => [')']

/-- A number token holds a numeral and knows whether it has a point. -/
def Token.WellFormed : Token → Prop
  | .number text dotted => IsNumeral text.toList ∧ (dotted = true ↔ '.' ∈ text.toList)
  | _ => True

/-- No lexeme at the front of the text is longer than this token. -/
def Token.LongestIn (token : Token) (text : List Char) : Prop :=
  ∀ other : Token, other.WellFormed → other.spelling <+: text →
    other.spelling.length ≤ token.spelling.length

/-- May the character not stand directly behind the token? -/
def Token.bars : Token → Char → Bool
  | .number _ _, c => Text.isAlphanumeric c || c == '_' || c == '.'
  | .slash, c => c == '/'
  | _, _ => false

/-- `Lexes text tokens`: the text is a sequence of blanks and lexemes that spell the tokens. -/
inductive Lexes : List Char → List Token → Prop where
  | nil : Lexes [] []
  | blank {c : Char} {rest : List Char} {tokens : List Token} :
      Text.isBlank c = true → Lexes rest tokens → Lexes (c :: rest) tokens
  | lexeme {token : Token} {rest : List Char} {tokens : List Token} :
      token.WellFormed → token.LongestIn (token.spelling ++ rest) →
      (∀ next ∈ rest.head?, token.bars next = false) → Lexes rest tokens →
      Lexes (token.spelling ++ rest) (token :: tokens)

/-- The characters of the lexical language. -/
def InAlphabet (c : Char) : Prop :=
  Text.isBlank c = true ∨ c.isDigit = true ∨ c ∈ ['.', '+', '-', '*', '/', '%', '(', ')']

instance (c : Char) : Decidable (InAlphabet c) :=
  inferInstanceAs (Decidable (_ ∨ _ ∨ _))

/-- `Joined tokens text`: the text is that of the tokens with blanks between any two of them. -/
inductive Joined : List Token → List Char → Prop where
  | nil : Joined [] []
  | single (token : Token) : Joined [token] token.spelling
  | cons {token next : Token} {tokens : List Token} {gap text : List Char} :
      gap ≠ [] → (∀ c ∈ gap, Text.isBlank c = true) → Joined (next :: tokens) text →
      Joined (token :: next :: tokens) (token.spelling ++ (gap ++ text))

/-! ## Characters -/

/-- The ASCII digits and letters. -/
def asciiAlphanumericRanges : List (Nat × Nat) :=
  [(48, 57), (65, 90), (97, 122)]

theorem isAlphanumeric_of_isDigit {c : Char} (hdigit : c.isDigit = true) :
    Text.isAlphanumeric c = true := by
  have hascii : c.toNat < 0x80 := by
    have := Text.toNat_of_isDigit hdigit
    omega
  simp [Text.isAlphanumeric, Text.isNumeric, Text.isDecimalDigit, hascii, hdigit]

/-- A letter or number is in one of the four tables. -/
theorem inRanges_of_isAlphanumeric {c : Char} (hmem : Text.isAlphanumeric c = true) :
    Text.inRanges (asciiAlphanumericRanges ++ (Text.alphabeticRanges ++
      (Text.decimalDigitRanges ++ Text.otherNumberRanges))) c = true := by
  simp only [Text.isAlphanumeric, Text.isNumeric, Text.isAlphabetic, Text.isDecimalDigit,
    Bool.or_eq_true] at hmem
  simp only [Text.inRanges, List.any_append, Bool.or_eq_true] at hmem ⊢
  by_cases hascii : c.toNat < 0x80
  · simp only [hascii, if_true] at hmem
    rcases hmem with hletter | hdigit | hnumber
    · refine Or.inl (Text.inRanges_iff.mpr ?_)
      rcases (Bool.or_eq_true _ _).mp hletter with hupper | hlower
      · exact ⟨(65, 90), by simp [asciiAlphanumericRanges], Text.toNat_of_isUpper hupper⟩
      · exact ⟨(97, 122), by simp [asciiAlphanumericRanges], Text.toNat_of_isLower hlower⟩
    · exact Or.inl (Text.inRanges_iff.mpr
        ⟨(48, 57), by simp [asciiAlphanumericRanges], Text.toNat_of_isDigit hdigit⟩)
    · exact Or.inr (Or.inr (Or.inr hnumber))
  · simp only [hascii, if_false] at hmem
    exact Or.inr hmem

/-- No character is in two tables whose ranges lie apart. -/
theorem not_inRanges_of_apart {ranges others : List (Nat × Nat)}
    (hapart : ∀ r ∈ ranges, ∀ s ∈ others, r.2 < s.1 ∨ s.2 < r.1) {c : Char}
    (hmem : Text.inRanges ranges c = true) : Text.inRanges others c = false := by
  rw [← Bool.not_eq_true, Text.inRanges_iff]
  rintro ⟨s, hs, hlow, hhigh⟩
  obtain ⟨r, hr, hlow', hhigh'⟩ := Text.inRanges_iff.mp hmem
  rcases hapart r hr s hs with hbefore | hbehind <;> omega

/-- No blank is a letter or a number. -/
theorem not_isAlphanumeric_of_isBlank {c : Char} (hblank : Text.isBlank c = true) :
    Text.isAlphanumeric c = false := by
  rw [← Bool.not_eq_true]
  intro hmem
  have hother : Text.isBlank c = false :=
    not_inRanges_of_apart (by decide +kernel) (inRanges_of_isAlphanumeric hmem)
  exact absurd hblank (by simp [hother])

/-! ## Lexemes in front of a rest -/

theorem IsNumeral.ne_nil {text : List Char} (hnumeral : IsNumeral text) : text ≠ [] := by
  obtain ⟨c, hmem, -⟩ := hnumeral.digit
  exact List.ne_nil_of_mem hmem

/-- A token that is no number. -/
def Token.IsMark (token : Token) : Prop :=
  ∀ text dotted, token ≠ .number text dotted

theorem Token.isMark_or (token : Token) :
    token.IsMark ∨ ∃ text dotted, token = .number text dotted := by
  cases token with
  | number text dotted => exact Or.inr ⟨text, dotted, rfl⟩
  | _ => exact Or.inl fun text dotted => by simp

/-- Marks are not written with the characters of numerals. -/
theorem Token.IsMark.mem_spelling {token : Token} (hmark : token.IsMark) {c : Char}
    (hmem : c ∈ token.spelling) : ¬ (c.isDigit = true ∨ c = '.') := by
  have hall : token.spelling.all (fun c => !(c.isDigit || c == '.')) = true := by
    cases token with
    | number text dotted => exact absurd rfl (hmark text dotted)
    | _ => decide
  simpa using List.all_eq_true.mp hall c hmem

/-- A mark is the longest lexeme unless it is half of a double star. -/
theorem Token.IsMark.longestIn {token : Token} (hmark : token.IsMark) {rest : List Char}
    (hstar : token = .star → rest.head? ≠ some '*') :
    token.LongestIn (token.spelling ++ rest) := by
  intro other hwell hprefix
  rcases other.isMark_or with hother | ⟨text, dotted, rfl⟩
  · by_cases hdouble : token = .star ∧ other = .doubleStar
    · obtain ⟨rfl, rfl⟩ := hdouble
      obtain ⟨more, hmore⟩ := hprefix
      have hrest : rest = '*' :: more := by simpa [Token.spelling] using hmore.symm
      exact absurd (by rw [hrest]; rfl) (hstar rfl)
    · cases token <;> cases other <;> simp_all [Token.spelling, Token.IsMark]
  · -- A numeral does not start with the character of a mark.
    obtain ⟨c, more, htext⟩ := List.exists_cons_of_ne_nil hwell.1.ne_nil
    have hhead : c ∈ token.spelling := by
      cases token <;> simp_all [Token.spelling, Token.IsMark]
    exact absurd (hwell.1.characters c (by simp [htext])) (hmark.mem_spelling hhead)

/-- A numeral is the longest lexeme where nothing that is barred stands behind it. -/
theorem IsNumeral.longestIn {text : String} (hnumeral : IsNumeral text.toList) {dotted : Bool}
    {rest : List Char} (hnext : ∀ next ∈ rest.head?, (Token.number text dotted).bars next = false) :
    (Token.number text dotted).LongestIn (text.toList ++ rest) := by
  intro other hwell hprefix
  by_contra hlonger
  have hlonger : text.toList.length < other.spelling.length := Nat.lt_of_not_le hlonger
  obtain ⟨more, hmore⟩ := List.prefix_of_prefix_length_le (List.prefix_append text.toList rest)
    hprefix (Nat.le_of_lt hlonger)
  rcases other.isMark_or with hmark | ⟨text', dotted', rfl⟩
  · obtain ⟨c, front, htext⟩ := List.exists_cons_of_ne_nil hnumeral.ne_nil
    have hhead : c ∈ other.spelling := by simp [← hmore, htext]
    exact hmark.mem_spelling hhead (hnumeral.characters c (by simp [htext]))
  · -- The next character would belong to the longer numeral.
    obtain ⟨next, later, rfl⟩ : ∃ next later, more = next :: later := by
      apply List.exists_cons_of_ne_nil
      rintro rfl
      simp [← hmore] at hlonger
    have hbehind : next :: later <+: rest := by
      rwa [← hmore, List.prefix_append_right_inj] at hprefix
    obtain ⟨behind, rfl⟩ := hbehind
    have hbars := hnext next rfl
    simp only [Token.bars, Bool.or_eq_false_iff, beq_eq_false_iff_ne] at hbars
    have hmem : next ∈ text'.toList := by
      rw [show text'.toList = _ from hmore.symm]
      simp
    rcases hwell.1.characters next hmem with hdigit | hpoint
    · exact absurd (isAlphanumeric_of_isDigit hdigit) (by simp [hbars.1.1])
    · exact hbars.2 hpoint

/-! ## The scanner is sound -/

/-- The scanner's number is always the beginning of a numeral. -/
structure Pending (pending : List Char) : Prop where
  characters : ∀ c ∈ pending, c.isDigit = true ∨ c = '.'
  point : pending.count '.' ≤ 1

theorem Pending.nil : Pending [] :=
  ⟨by simp, by simp⟩

theorem Pending.continue {pending : List Char} (hpending : Pending pending) {c : Char}
    (hcontinues : continuesNumber pending c = true) : Pending (pending ++ [c]) := by
  simp only [continuesNumber, Bool.or_eq_true, Bool.and_eq_true, beq_iff_eq, Bool.not_eq_true',
    List.contains_eq_mem, decide_eq_false_iff_not] at hcontinues
  refine ⟨?_, ?_⟩
  · intro d hd
    rcases List.mem_append.mp hd with hold | hnew
    · exact hpending.characters d hold
    · rw [List.mem_singleton.mp hnew]
      exact hcontinues.imp_right And.left
  · rw [List.count_append, List.count_singleton]
    rcases hcontinues with hdigit | ⟨rfl, hnone⟩
    · have hne : (c == '.') = false := by
        rw [beq_eq_false_iff_ne]
        rintro rfl
        exact absurd hdigit (by decide)
      simpa [hne] using hpending.point
    · simp [List.count_eq_zero_of_not_mem hnone]

/-- Where the scanner's number may end, the text up to there is a lexeme. -/
theorem Pending.lexes {pending rest : List Char} {tokens : List Token} (hpending : Pending pending)
    (hdigit : ¬ (!pending.isEmpty && !pending.any Char.isDigit) = true)
    (hnext : ∀ next ∈ rest.head?,
      ¬ (!pending.isEmpty && (isNameCharacter next || next == '.')) = true)
    (hrest : Lexes rest tokens) : Lexes (pending ++ rest) (pendingToken pending ++ tokens) := by
  unfold pendingToken
  split
  · next hempty => simpa [List.isEmpty_iff.mp hempty] using hrest
  · next hsome =>
      have hnumeral : IsNumeral pending := by
        refine ⟨hpending.characters, hpending.point, ?_⟩
        simpa [hsome] using hdigit
      have hbars : ∀ next ∈ rest.head?, (Token.number (String.ofList pending)
          (pending.contains '.')).bars next = false := by
        intro next hmem
        simpa [hsome, isNameCharacter, Token.bars] using hnext next hmem
      have hlexeme := @Lexes.lexeme (.number (String.ofList pending) (pending.contains '.')) rest
        tokens ⟨by simpa using hnumeral, by simp⟩ ?_ hbars hrest
      · simpa [Token.spelling] using hlexeme
      · exact IsNumeral.longestIn (by simpa using hnumeral) hbars

/-- A single-character token is a mark that is not half of another one. -/
theorem singleToken?_spelling {c : Char} {token : Token} (hsingle : singleToken? c = some token) :
    token.spelling = [c] ∧ token.IsMark ∧ token ≠ .star ∧ ∀ next, token.bars next = false := by
  unfold singleToken? at hsingle
  split at hsingle
  case h_6 => cases hsingle
  all_goals
    cases hsingle
    exact ⟨rfl, fun _ _ => by simp, by simp, fun _ => rfl⟩

theorem Token.IsMark.wellFormed {token : Token} (hmark : token.IsMark) : token.WellFormed := by
  cases token with
  | number text dotted => exact absurd rfl (hmark text dotted)
  | _ => trivial

/-- **Whatever the scanner reads is in the lexical language.** -/
theorem scan_sound {position : Nat} {pending text : List Char} {tokens : List Token}
    (hpending : Pending pending) (hscan : scan position pending text = .ok tokens) :
    Lexes (pending ++ text) tokens := by
  fun_induction scan position pending text generalizing tokens with
  | case1 | case4 | case5 | case9 | case12 => cases hscan
  | case2 _ pending hdigit =>
      cases hscan
      have hlexes := hpending.lexes hdigit (fun next hmem => by simp at hmem) Lexes.nil
      simpa using hlexes
  | case3 _ pending c rest hcontinues ih =>
      simpa using ih (hpending.continue hcontinues) hscan
  | case6 _ pending c rest _ hdigit hnext hblank ih =>
      obtain ⟨more, hmore, htokens⟩ := bind_eq_ok.mp hscan
      cases htokens
      exact hpending.lexes hdigit (by simpa using hnext) (.blank hblank (ih .nil hmore))
  | case7 _ pending hdigit rest _ hnext _ ih =>
      obtain ⟨more, hmore, htokens⟩ := bind_eq_ok.mp hscan
      cases htokens
      have hmark : Token.doubleStar.IsMark := fun _ _ => by simp
      exact hpending.lexes hdigit (by simpa using hnext)
        (.lexeme hmark.wellFormed (hmark.longestIn (by simp)) (fun _ _ => rfl) (ih .nil hmore))
  | case8 _ pending hdigit rest hstar _ hnext _ ih =>
      obtain ⟨more, hmore, htokens⟩ := bind_eq_ok.mp hscan
      cases htokens
      have hmark : Token.star.IsMark := fun _ _ => by simp
      have hlone : rest.head? ≠ some '*' := by
        intro hhead
        obtain ⟨later, rfl⟩ := List.head?_eq_some_iff.mp hhead
        exact hstar later rfl
      exact hpending.lexes hdigit (by simpa using hnext)
        (.lexeme hmark.wellFormed (hmark.longestIn fun _ => hlone) (fun _ _ => rfl) (ih .nil hmore))
  | case10 _ pending rest hdigit hslash _ hnext _ _ ih =>
      obtain ⟨more, hmore, htokens⟩ := bind_eq_ok.mp hscan
      cases htokens
      have hmark : Token.slash.IsMark := fun _ _ => by simp
      have hbars : ∀ next ∈ rest.head?, Token.slash.bars next = false := by
        rintro next hmem
        rw [Token.bars, beq_eq_false_iff_ne]
        rintro rfl
        exact hslash hmem
      exact hpending.lexes hdigit (by simpa using hnext)
        (.lexeme hmark.wellFormed (hmark.longestIn (by simp)) hbars (ih .nil hmore))
  | case11 _ pending c rest _ hdigit hnext _ _ _ token hsingle ih =>
      obtain ⟨more, hmore, htokens⟩ := bind_eq_ok.mp hscan
      cases htokens
      obtain ⟨hspelling, hmark, hstar, hbars⟩ := singleToken?_spelling hsingle
      have hlexeme := Lexes.lexeme hmark.wellFormed (hmark.longestIn fun heq => absurd heq hstar)
        (fun next _ => hbars next) (ih .nil hmore)
      rw [hspelling] at hlexeme
      exact hpending.lexes hdigit (by simpa using hnext) hlexeme

/-! ## The scanner is complete -/

theorem scan_continues {pending : List Char} {c : Char}
    (hcontinues : continuesNumber pending c = true) (position : Nat) (rest : List Char) :
    scan position pending (c :: rest) = scan (position + 1) (pending ++ [c]) rest := by
  rw [scan.eq_def]
  exact if_pos hcontinues

theorem scan_of_continues {pending more rest : List Char} (hpending : Pending (pending ++ more))
    (position : Nat) :
    scan position pending (more ++ rest) =
      scan (position + more.length) (pending ++ more) rest := by
  induction more generalizing position pending with
  | nil => simp
  | cons c more ih =>
      have hcontinues : continuesNumber pending c = true := by
        have hpoint := hpending.point
        rcases hpending.characters c (by simp) with hdigit | rfl
        · simp [continuesNumber, hdigit]
        · have hnone : '.' ∉ pending := by
            rw [← List.count_eq_zero]
            simp only [List.count_append, List.count_cons_self] at hpoint
            omega
          simp [continuesNumber, hnone]
      rw [List.cons_append, scan_continues hcontinues, ih (by simpa using hpending)]
      simp [Nat.add_assoc, Nat.add_comm 1]

/-- Where its number ends, the scanner goes on as if it had not been reading one. -/
theorem scan_of_ends {pending rest : List Char} (hdigit : ∃ c ∈ pending, c.isDigit = true)
    (hnext : ∀ next ∈ rest.head?, (isNameCharacter next || next == '.') = false) (position : Nat) :
    scan position pending rest =
      (scan position [] rest >>= fun tokens => .ok (pendingToken pending ++ tokens)) := by
  have hsome : (!pending.isEmpty && !pending.any Char.isDigit) = false := by
    simp only [Bool.and_eq_false_imp, Bool.not_eq_eq_eq_not, Bool.not_false, List.any_eq_true]
    exact fun _ => hdigit
  cases rest with
  | nil => simp [scan, hsome, bind, Except.bind, pendingToken]
  | cons c rest =>
      have hbars := hnext c rfl
      have hends : ∀ number, continuesNumber number c = false := by
        intro number
        simp only [isNameCharacter, Bool.or_eq_false_iff, beq_eq_false_iff_ne] at hbars
        have hnone : c.isDigit = false := by
          rw [← Bool.not_eq_true]
          intro hdigit
          exact absurd (isAlphanumeric_of_isDigit hdigit) (by simp [hbars.1.1])
        simp [continuesNumber, hnone, hbars.2]
      unfold scan
      simp only [hends, hsome, hbars, List.isEmpty_nil, Bool.not_true, Bool.false_and,
        Bool.and_false, Bool.false_eq_true, if_false]
      -- Both sides now take the same branch, and only what they put in front differs.
      split_ifs
      · cases scan (position + 1) [] rest <;> rfl
      · split
        · next more => cases scan (position + 2) [] more <;> rfl
        · cases scan (position + 1) [] rest <;> rfl
      · rfl
      · cases scan (position + 1) [] rest <;> rfl
      · split
        · cases scan (position + 1) [] rest <;> rfl
        · rfl

/-- A blank is skipped. -/
theorem scan_blank {c : Char} (hblank : Text.isBlank c = true) (position : Nat)
    (rest : List Char) : scan position [] (c :: rest) = scan (position + 1) [] rest := by
  have hdigit : c.isDigit = false := by
    rw [← Bool.not_eq_true]
    exact fun hdigit => absurd hblank (by simp [Text.not_isBlank_of_isDigit hdigit])
  have hpoint : c ≠ '.' := by
    rintro rfl
    revert hblank
    decide
  have hstarts : continuesNumber [] c = false := by simp [continuesNumber, hdigit, hpoint]
  rw [scan.eq_def]
  simp only [hstarts, hblank, List.isEmpty_nil, Bool.not_true, Bool.false_and, Bool.false_eq_true,
    if_false, if_true]
  cases scan (position + 1) [] rest <;> rfl

/-- A mark of one character that is never combined is read. -/
theorem scan_single {c : Char} {token : Token} (hsingle : singleToken? c = some token)
    (position : Nat) (rest : List Char) :
    scan position [] (c :: rest) =
      (scan (position + 1) [] rest >>= fun tokens => .ok (token :: tokens)) := by
  have hapart : continuesNumber [] c = false ∧ Text.isBlank c = false ∧ c ≠ '*' ∧ c ≠ '/' := by
    unfold singleToken? at hsingle
    split at hsingle
    case h_6 => cases hsingle
    all_goals decide
  obtain ⟨hnumber, hblank, hstar, hslash⟩ := hapart
  rw [scan.eq_def]
  simp only [hnumber, hblank, hstar, hslash, hsingle, List.isEmpty_nil, Bool.not_true,
    Bool.false_and, Bool.false_eq_true, if_false]
  rfl

/-- A mark in front is read, unless it is half of another token. -/
theorem scan_mark {token : Token} (hmark : token.IsMark) {rest : List Char}
    (hstar : token = .star → rest.head? ≠ some '*')
    (hslash : token = .slash → rest.head? ≠ some '/') (position : Nat) :
    scan position [] (token.spelling ++ rest) =
      (scan (position + token.spelling.length) [] rest >>= fun tokens =>
        .ok (token :: tokens)) := by
  cases token with
  | number text dotted => exact absurd rfl (hmark text dotted)
  | doubleStar => rfl
  | star =>
      have hlone : ∀ later, rest = '*' :: later → False := by
        rintro later rfl
        exact hstar rfl rfl
      rw [Token.spelling, List.singleton_append, scan]
      · rfl
      · exact hlone
  | slash =>
      have hapart : continuesNumber [] '/' = false ∧ Text.isBlank '/' = false := by decide
      rw [Token.spelling, List.singleton_append, scan.eq_def]
      simp only [hapart.1, hapart.2, hslash rfl, List.isEmpty_nil, Bool.not_true, Bool.false_and,
        Bool.false_eq_true, if_false, if_true]
      rfl
  | _ => exact scan_single rfl position rest

/-- A numeral in front is read where nothing that is barred stands behind it. -/
theorem scan_number {text : String} {dotted : Bool} (hwell : (Token.number text dotted).WellFormed)
    {rest : List Char} (hnext : ∀ next ∈ rest.head?, (Token.number text dotted).bars next = false)
    (position : Nat) :
    scan position [] (text.toList ++ rest) =
      (scan (position + text.toList.length) [] rest >>= fun tokens =>
        .ok (.number text dotted :: tokens)) := by
  obtain ⟨hnumeral, hdotted⟩ := hwell
  have htoken : pendingToken text.toList = [.number text dotted] := by
    have hpoint : text.toList.contains '.' = dotted := by
      rw [List.contains_eq_mem, Bool.eq_iff_iff, decide_eq_true_iff, hdotted]
    simp only [pendingToken, List.isEmpty_eq_false_iff.mpr hnumeral.ne_nil, hpoint,
      Bool.false_eq_true, if_false, String.ofList_toList]
  rw [scan_of_continues (by simpa using ⟨hnumeral.characters, hnumeral.point⟩), List.nil_append,
    scan_of_ends hnumeral.digit hnext, htoken]
  rfl

/-- **The scanner reads the whole lexical language.** -/
theorem scan_complete {text : List Char} {tokens : List Token} (hlexes : Lexes text tokens)
    (position : Nat) : scan position [] text = .ok tokens := by
  induction hlexes generalizing position with
  | nil => rfl
  | blank hblank _ ih => rw [scan_blank hblank, ih]
  | @lexeme token rest tokens hwell hlongest hnext _ ih =>
      rcases token.isMark_or with hmark | ⟨text, dotted, rfl⟩
      · have hstar : token = .star → rest.head? ≠ some '*' := by
          rintro rfl hhead
          obtain ⟨later, rfl⟩ := List.head?_eq_some_iff.mp hhead
          have hlonger := hlongest .doubleStar trivial ⟨later, rfl⟩
          exact absurd hlonger (by decide)
        have hslash : token = .slash → rest.head? ≠ some '/' := by
          rintro rfl hhead
          exact absurd (hnext '/' hhead) (by decide)
        rw [scan_mark hmark hstar hslash, ih]
        rfl
      · rw [Token.spelling, scan_number hwell hnext, ih]
        rfl

/-! ## Texts in and outside the language -/

/-- A text of the language holds only characters of its alphabet. -/
theorem Lexes.inAlphabet {text : List Char} {tokens : List Token} (hlexes : Lexes text tokens) :
    ∀ c ∈ text, InAlphabet c := by
  induction hlexes with
  | nil => simp
  | blank hblank _ ih => exact List.forall_mem_cons.mpr ⟨Or.inl hblank, ih⟩
  | @lexeme token rest tokens hwell _ _ _ ih =>
      refine List.forall_mem_append.mpr ⟨?_, ih⟩
      cases token with
      | number text dotted =>
          intro c hmem
          rcases hwell.1.characters c hmem with hdigit | rfl
          · exact Or.inr (Or.inl hdigit)
          · exact Or.inr (Or.inr (by simp))
      | _ => simp [Token.spelling, InAlphabet]

/-- A blank may stand behind every token. -/
theorem Token.bars_of_isBlank (token : Token) {c : Char} (hblank : Text.isBlank c = true) :
    token.bars c = false := by
  have hletter := not_isAlphanumeric_of_isBlank hblank
  have hnone : c ≠ '_' ∧ c ≠ '.' ∧ c ≠ '/' := by
    refine ⟨?_, ?_, ?_⟩ <;>
    · rintro rfl
      revert hblank
      decide
  cases token <;> simp [Token.bars, hletter, hnone]

/-- In front of a blank or the end every token is a lexeme. -/
theorem Lexes.append_of_blank {token : Token} (hwell : token.WellFormed) {rest : List Char}
    {tokens : List Token} (hnext : ∀ next ∈ rest.head?, Text.isBlank next = true)
    (hrest : Lexes rest tokens) : Lexes (token.spelling ++ rest) (token :: tokens) := by
  have hbars : ∀ next ∈ rest.head?, token.bars next = false :=
    fun next hmem => token.bars_of_isBlank (hnext next hmem)
  refine .lexeme hwell ?_ hbars hrest
  rcases token.isMark_or with hmark | ⟨text, dotted, rfl⟩
  · refine hmark.longestIn fun _ hhead => ?_
    exact absurd (hnext '*' hhead) (by decide)
  · exact hwell.1.longestIn hbars

theorem Lexes.append_blanks {gap rest : List Char} {tokens : List Token}
    (hgap : ∀ c ∈ gap, Text.isBlank c = true) (hrest : Lexes rest tokens) :
    Lexes (gap ++ rest) tokens := by
  induction gap with
  | nil => exact hrest
  | cons c gap ih =>
      obtain ⟨hblank, hgap⟩ := List.forall_mem_cons.mp hgap
      exact .blank hblank (ih hgap)

/-- Tokens that blanks keep apart are in the language. -/
theorem Joined.lexes {tokens : List Token} {text : List Char} (hjoined : Joined tokens text)
    (hwell : ∀ token ∈ tokens, token.WellFormed) : Lexes text tokens := by
  induction hjoined with
  | nil => exact .nil
  | single token =>
      have hlexes := Lexes.append_of_blank (hwell token (by simp))
        (fun next hmem => by simp at hmem) Lexes.nil
      rwa [List.append_nil] at hlexes
  | @cons token next tokens gap text hne hgap _ ih =>
      obtain ⟨hfirst, hlater⟩ := List.forall_mem_cons.mp hwell
      refine .append_of_blank hfirst ?_ (.append_blanks hgap (ih hlater))
      intro c hmem
      obtain ⟨blank, more, rfl⟩ := List.exists_cons_of_ne_nil hne
      obtain rfl : blank = c := by simpa using hmem
      exact hgap blank (by simp)

/-! ## The main statement -/

/-- **The tokenizer accepts exactly the lexical language.**  A text has these tokens exactly when
it is a sequence of blanks and of lexemes that spell them, each the longest at its place.  A text
with any other character has no tokens, and well-formed tokens with blanks between them are read
back. -/
theorem tokenize_accepts_lexemes (text : String) (tokens : List Token) :
    (tokenize text = .ok tokens ↔ Lexes text.toList tokens) ∧
      ((∃ c ∈ text.toList, ¬ InAlphabet c) → ∃ error, tokenize text = .error error) ∧
      ((∀ token ∈ tokens, token.WellFormed) → Joined tokens text.toList →
        tokenize text = .ok tokens) := by
  have hiff : ∀ tokens, tokenize text = .ok tokens ↔ Lexes text.toList tokens :=
    fun tokens => ⟨fun hread => scan_sound .nil hread, fun hlexes => scan_complete hlexes 0⟩
  refine ⟨hiff tokens, ?_, fun hwell hjoined => (hiff tokens).mpr (hjoined.lexes hwell)⟩
  rintro ⟨c, hmem, hstrange⟩
  cases hread : tokenize text with
  | error error => exact ⟨error, rfl⟩
  | ok other => exact absurd (((hiff other).mp hread).inAlphabet c hmem) hstrange

/-- Blanks of any script keep two slashes apart, and a caret is refused. -/
theorem tokenize_slashes_apart :
    let text := "2.\t** /\u3000/ 05"
    let tokens : List Token :=
      [.number "2." true, .doubleStar, .slash, .slash, .number "05" false]
    (∀ token ∈ tokens, token.WellFormed) ∧ Joined tokens text.toList ∧
      tokenize text = .ok tokens ∧ Lexes text.toList tokens ∧
      (∃ c ∈ "2 ^ 3".toList, ¬ InAlphabet c) ∧ ∃ error, tokenize "2 ^ 3" = .error error := by
  intro text tokens
  have hpointed : (Token.number "2." true).WellFormed := ⟨by decide, by decide⟩
  have hplain : (Token.number "05" false).WellFormed := ⟨by decide, by decide⟩
  have hwell : ∀ token ∈ tokens, token.WellFormed := by
    simp only [tokens, List.forall_mem_cons]
    exact ⟨hpointed, trivial, trivial, trivial, hplain, by simp⟩
  have hjoined : Joined tokens text.toList := by
    have htext : text.toList = ['2', '.'] ++ (['\t'] ++ (['*', '*'] ++ ([' '] ++
        (['/'] ++ (['\u3000'] ++ (['/'] ++ ([' '] ++ ['0', '5']))))))) := by decide
    have hgap : ∀ gap : Char, Text.isBlank gap = true → ∀ c ∈ [gap], Text.isBlank c = true :=
      fun gap hblank => List.forall_mem_singleton.mpr hblank
    rw [htext]
    refine @Joined.cons (.number "2." true) _ _ ['\t'] _ (by decide) (hgap _ (by decide)) ?_
    refine @Joined.cons .doubleStar _ _ [' '] _ (by decide) (hgap _ (by decide)) ?_
    refine @Joined.cons .slash _ _ ['\u3000'] _ (by decide) (hgap _ (by decide)) ?_
    exact @Joined.cons .slash _ _ [' '] _ (by decide) (hgap _ (by decide))
      (.single (.number "05" false))
  have hstrange : ∃ c ∈ "2 ^ 3".toList, ¬ InAlphabet c := ⟨'^', by decide, by decide⟩
  have hread := (tokenize_accepts_lexemes text tokens).2.2 hwell hjoined
  exact ⟨hwell, hjoined, hread, (tokenize_accepts_lexemes text tokens).1.mp hread, hstrange,
    (tokenize_accepts_lexemes "2 ^ 3" tokens).2.1 hstrange⟩

end ToolAssistant.Arithmetic
