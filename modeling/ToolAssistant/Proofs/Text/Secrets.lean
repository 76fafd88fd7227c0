import Mathlib.Data.Bool.AllAny
import Mathlib.Data.List.Forall2
import Mathlib.Data.List.Infix
import Mathlib.Data.List.TakeWhile
import ToolAssistant.Proofs.Text.Blank
import ToolAssistant.Text.Scrub

/-!
# What counts as a secret

Three shapes of secrets are told apart, each by the characters that it is made of: API keys, key
parameters with their values, and the credentials of an authorization scheme.

## Strategy

A pattern matches from a position on exactly if a secret of its shape begins there, and it takes up
the longest one (`apiKeyPattern_eq_some_iff`, `parameterPattern_eq_some_iff`,
`credentialPattern_eq_some_iff`).  Nothing beyond this module looks into a pattern.
-/

namespace ToolAssistant.Text

variable {before : Option Char} {cs w : List Char}

/-! ## Parts of texts -/

theorem prefix_of_prefix_append_cons {a : Char} {x y : List Char} (ha : a ∉ w)
    (hw : w <+: x ++ a :: y) : w <+: x := by
  obtain ⟨rest, hrest⟩ := hw
  rcases List.append_eq_append_iff.mp hrest with ⟨more, rfl, -⟩ | ⟨more, rfl, hmore⟩
  · exact List.prefix_append w more
  · cases more with
    | nil => rw [List.append_nil]
    | cons c more =>
        obtain rfl : a = c := (List.cons.inj hmore).1
        simp at ha

/-- The longest run at the start of a text is the one that something else ends. -/
theorem takeWhile_append_of_ends {p : Char → Bool} {run rest : List Char}
    (hrun : ∀ c ∈ run, p c = true) (hends : ∀ c ∈ rest.head?, p c = false) :
    (run ++ rest).takeWhile p = run := by
  rw [List.takeWhile_append_of_pos hrun]
  cases rest with
  | nil => rw [List.takeWhile_nil, List.append_nil]
  | cons c rest => rw [List.takeWhile_cons_of_neg (by simp [hends c rfl]), List.append_nil]

theorem afterPrefix?_eq_some_iff {expected rest : List Char} :
    afterPrefix? expected cs = some rest ↔ cs = expected ++ rest := by
  induction expected generalizing cs with
  | nil => simp [afterPrefix?]
  | cons e expected ih =>
      cases cs with
      | nil => simp [afterPrefix?]
      | cons c cs =>
          rw [afterPrefix?, List.cons_append, List.cons.injEq]
          split_ifs with heq
          · rw [ih, heq, eq_self, true_and]
          · simp [Ne.symm heq]

/-! ## API keys -/

/-- A character of an API key: a letter or a digit of ASCII, a hyphen, or an underscore. -/
def IsKeyCharacter (c : Char) : Prop :=
  'A' ≤ c ∧ c ≤ 'Z' ∨ 'a' ≤ c ∧ c ≤ 'z' ∨ '0' ≤ c ∧ c ≤ '9' ∨ c = '-' ∨ c = '_'

instance (c : Char) : Decidable (IsKeyCharacter c) :=
  inferInstanceAs (Decidable (_ ∨ _))

theorem isKeyCharacter_iff {c : Char} : isKeyCharacter c = true ↔ IsKeyCharacter c := by
  have hrange (low high : Char) :
      (decide (low ≤ c) && decide (c ≤ high)) = true ↔ low ≤ c ∧ c ≤ high := by
    rw [Bool.and_eq_true, decide_eq_true_iff, decide_eq_true_iff]
  have hcapital : c.isUpper = true ↔ 'A' ≤ c ∧ c ≤ 'Z' := decide_eq_true_iff
  have hsmall : c.isLower = true ↔ 'a' ≤ c ∧ c ≤ 'z' := hrange 'a' 'z'
  have hdigit : c.isDigit = true ↔ '0' ≤ c ∧ c ≤ '9' := hrange '0' '9'
  change (c.isUpper || c.isLower || c.isDigit || c == '-' || c == '_') = true ↔ _
  rw [Bool.or_eq_true, Bool.or_eq_true, Bool.or_eq_true, Bool.or_eq_true, hcapital, hsmall, hdigit,
    beq_iff_eq, beq_iff_eq, or_assoc, or_assoc, or_assoc, IsKeyCharacter]

theorem all_isKeyCharacter_iff : w.all isKeyCharacter = true ↔ ∀ c ∈ w, IsKeyCharacter c := by
  rw [List.all_eq_true]
  exact forall₂_congr fun _ _ => isKeyCharacter_iff

/-- An API key: `AIza` and 35 key characters. -/
def IsApiKey (w : List Char) : Prop :=
  ∃ body, w = "AIza".toList ++ body ∧ body.length = 35 ∧ ∀ c ∈ body, IsKeyCharacter c

/-- **The pattern for API keys** matches one. -/
theorem apiKeyPattern_eq_some_iff {found : Match} :
    apiKeyPattern before cs = some found ↔
      ∃ w rest, cs = w ++ rest ∧ IsApiKey w ∧ found = ⟨redacted.toList, w.length⟩ := by
  have hlong {body : List Char} (hbody : body.length = 35) :
      ("AIza".toList ++ body).length = 39 := by
    rw [List.length_append, hbody]
    rfl
  constructor
  · intro hfound
    obtain ⟨rest, hrest, hkey⟩ := Option.bind_eq_some_iff.mp hfound
    obtain rfl := afterPrefix?_eq_some_iff.mp hrest
    simp only at hkey
    split_ifs at hkey with hbody
    refine ⟨"AIza".toList ++ rest.take 35, rest.drop 35, ?_,
      ⟨_, rfl, hbody.1, all_isKeyCharacter_iff.mp hbody.2⟩, ?_⟩
    · rw [List.append_assoc, List.take_append_drop]
    · rw [hlong hbody.1]
      exact (Option.some.inj hkey).symm
  · rintro ⟨w, rest, rfl, ⟨body, rfl, hlength, hbody⟩, rfl⟩
    have hrest : afterPrefix? "AIza".toList ("AIza".toList ++ body ++ rest) = some (body ++ rest) :=
      afterPrefix?_eq_some_iff.mpr (List.append_assoc ..)
    have htake : (body ++ rest).take 35 = body := by
      rw [← hlength, List.take_left]
    simp only [apiKeyPattern, hrest, Option.bind_eq_bind, Option.bind_some, htake]
    rw [if_pos ⟨hlength, all_isKeyCharacter_iff.mpr hbody⟩, hlong hlength]

theorem apiKeyPattern_eq_none_iff :
    apiKeyPattern before cs = none ↔ ∀ w, w <+: cs → ¬IsApiKey w := by
  constructor
  · rintro hnone w ⟨rest, rfl⟩ hw
    rw [apiKeyPattern_eq_some_iff.mpr ⟨w, rest, rfl, hw, rfl⟩] at hnone
    cases hnone
  · intro hnot
    cases hfound : apiKeyPattern before cs with
    | none => rfl
    | some found =>
        obtain ⟨w, rest, rfl, hw, -⟩ := apiKeyPattern_eq_some_iff.mp hfound
        exact absurd hw (hnot w (List.prefix_append w rest))

/-! ## The names of key parameters -/

/-- A character is a letter in one of its cases; the Kelvin sign is a case of the K. -/
def IsCaseOf (letter c : Char) : Prop :=
  c = letter ∨ c = letter.toUpper ∨ letter = 'k' ∧ c = '\u212a'

instance (letter c : Char) : Decidable (IsCaseOf letter c) :=
  inferInstanceAs (Decidable (_ ∨ _))

/-- A text spells a word, letter by letter and in any case. -/
def Spells (word here : List Char) : Prop :=
  List.Forall₂ IsCaseOf word here

/-- The name of a query parameter that carries a key. -/
def IsKeyParameter (name : List Char) : Prop :=
  ∃ word ∈ ["appid", "api_key", "key"], Spells word.toList name

/-- Does the character belong to the value of a query parameter? -/
def isValueCharacter (c : Char) : Bool :=
  c != '&' && c != '\'' && !isBlank c

/-- The letters of the names of key parameters. -/
def nameLetters : List Char := "appid_key".toList

/-- Their characters, in either case; the Kelvin sign counts as a K. -/
def nameCharacters : List Char := "adeikpy_ADEIKPY\u212a".toList

theorem keyParameter_subset {word : String} (hword : word ∈ keyParameters) :
    word.toList ⊆ nameLetters := by
  have hwords : ∀ word ∈ keyParameters, word.toList ⊆ nameLetters := by decide
  exact hwords word hword

theorem isLetterOf_iff {letter c : Char} (hletter : letter ∈ nameLetters) :
    isLetterOf letter c = true ↔ IsCaseOf letter c := by
  constructor
  · intro hc
    by_cases hcapital : 65 ≤ c.toNat ∧ c.toNat ≤ 90
    · have hcapitals : ∀ n ∈ List.range' 65 26, (nameLetters.all fun letter =>
          isLetterOf letter (Char.ofNat n) → IsCaseOf letter (Char.ofNat n)) = true := by decide
      have hn : c.toNat ∈ List.range' 65 26 := by
        rw [List.mem_range'_1]
        omega
      have hcase := of_decide_eq_true (List.all_eq_true.mp (hcapitals c.toNat hn) letter hletter)
      rw [Char.ofNat_toNat] at hcase
      exact hcase hc
    · have hsmall : c.toLower = c := by
        unfold Char.toLower
        rw [dif_neg]
        rintro ⟨hlow, hhigh⟩
        exact hcapital ⟨UInt32.le_iff_toNat_le.mp hlow, UInt32.le_iff_toNat_le.mp hhigh⟩
      rw [isLetterOf, hsmall, Bool.or_eq_true, Bool.and_eq_true, beq_iff_eq, beq_iff_eq,
        beq_iff_eq] at hc
      exact hc.imp_right Or.inr
  · have hcases : ∀ letter ∈ nameLetters,
        isLetterOf letter letter = true ∧ isLetterOf letter letter.toUpper = true :=
      List.all_iff_forall_prop.mp (by decide)
    rintro (rfl | rfl | ⟨rfl, rfl⟩)
    · exact (hcases _ hletter).1
    · exact (hcases _ hletter).2
    · rfl

theorem spells_iff {word here : List Char} (hletters : word ⊆ nameLetters) :
    Spells word here ↔ here.length = word.length ∧
      (List.zipWith isLetterOf word here).all id = true := by
  unfold Spells
  induction word generalizing here with
  | nil => cases here <;> simp
  | cons letter word ih =>
      obtain ⟨hletter, hmore⟩ := List.cons_subset.mp hletters
      cases here with
      | nil => simp
      | cons c here =>
          rw [List.forall₂_cons, ih hmore, ← isLetterOf_iff hletter, List.length_cons,
            List.length_cons, Nat.add_right_cancel_iff, List.zipWith_cons_cons, List.all_cons,
            Bool.and_eq_true, id]
          exact and_left_comm

theorem spelled?_eq_some_iff {word here : List Char} (hletters : word ⊆ nameLetters) :
    spelled? word cs = some here ↔ here <+: cs ∧ Spells word here := by
  unfold spelled?
  rw [spells_iff hletters]
  constructor
  · intro hspelled
    simp only at hspelled
    split_ifs at hspelled with hword
    obtain rfl := Option.some.inj hspelled
    exact ⟨List.take_prefix _ _, hword⟩
  · rintro ⟨hbegins, hword⟩
    have hhere : cs.take word.length = here := by
      rw [← hword.1]
      exact (List.prefix_iff_eq_take.mp hbegins).symm
    rw [hhere, if_pos hword]

private theorem mem_nameCharacters {letter c : Char} (hletter : letter ∈ nameLetters)
    (hc : IsCaseOf letter c) : c ∈ nameCharacters := by
  have hcases : ∀ letter ∈ nameLetters,
      letter ∈ nameCharacters ∧ letter.toUpper ∈ nameCharacters :=
    List.all_iff_forall_prop.mp (by decide)
  rcases hc with rfl | rfl | ⟨-, rfl⟩
  · exact (hcases _ hletter).1
  · exact (hcases _ hletter).2
  · decide

private theorem subset_of_spells {word here : List Char} (hspells : Spells word here)
    (hletters : word ⊆ nameLetters) : here ⊆ nameCharacters := by
  induction hspells with
  | nil => exact List.nil_subset _
  | cons hc _ ih =>
      obtain ⟨hletter, hmore⟩ := List.cons_subset.mp hletters
      exact List.cons_subset.mpr ⟨mem_nameCharacters hletter hc, ih hmore⟩

theorem IsKeyParameter.forall_mem {p : Char → Prop} {name : List Char}
    (hp : ∀ c ∈ nameCharacters, p c) (hname : IsKeyParameter name) : ∀ c ∈ name, p c := by
  obtain ⟨word, hword, hspells⟩ := hname
  exact fun c hc => hp c (subset_of_spells hspells (keyParameter_subset hword) hc)

/-- The name of a key parameter is short, and all of it could stand in a value. -/
theorem IsKeyParameter.characters {name : List Char} (hname : IsKeyParameter name) :
    0 < name.length ∧ name.length ≤ 7 ∧ ∀ c ∈ name, isValueCharacter c = true ∧ c ≠ '=' := by
  have hvalues : ∀ c ∈ name, isValueCharacter c = true ∧ c ≠ '=' :=
    hname.forall_mem (List.all_iff_forall_prop.mp (by decide))
  obtain ⟨word, hword, hspells⟩ := hname
  have hlengths : ∀ word ∈ keyParameters, 0 < word.toList.length ∧ word.toList.length ≤ 7 := by
    decide
  obtain ⟨hpositive, hshort⟩ := hlengths word hword
  rw [hspells.length_eq] at hpositive hshort
  exact ⟨hpositive, hshort, hvalues⟩

theorem eq_of_append_equals {name other rest otherRest : List Char} (hname : '=' ∉ name)
    (hother : '=' ∉ other) (heq : name ++ '=' :: rest = other ++ '=' :: otherRest) :
    name = other ∧ rest = otherRest := by
  have hforth : name <+: other := prefix_of_prefix_append_cons hname ⟨_, heq⟩
  have hback : other <+: name := prefix_of_prefix_append_cons hother ⟨_, heq.symm⟩
  obtain rfl := hforth.eq_of_length_le hback.length_le
  exact ⟨rfl, (List.cons.inj (List.append_cancel_left heq)).2⟩

theorem IsKeyParameter.equals_notMem {name : List Char} (hname : IsKeyParameter name) :
    '=' ∉ name := by
  intro hmem
  exact (hname.characters.2.2 '=' hmem).2 rfl

/-- The name of a key parameter at the start of a text, in front of an equals sign. -/
def parameterName? (cs : List Char) : Option (List Char) :=
  keyParameters.findSome? fun word => do
    let here ← spelled? word.toList cs
    if (cs.drop here.length).head? = some '=' then some here else none

private theorem parameterName?_sound {name : List Char} (hname : parameterName? cs = some name) :
    IsKeyParameter name ∧ ∃ rest, cs = name ++ '=' :: rest := by
  obtain ⟨word, hword, hhere⟩ := List.exists_of_findSome?_eq_some hname
  obtain ⟨here, hspelled, hequals⟩ := Option.bind_eq_some_iff.mp hhere
  obtain ⟨⟨rest, rfl⟩, hspells⟩ := (spelled?_eq_some_iff (keyParameter_subset hword)).mp hspelled
  rw [List.drop_left] at hequals
  split_ifs at hequals with hhead
  obtain rfl := Option.some.inj hequals
  refine ⟨⟨word, hword, hspells⟩, rest.tail, ?_⟩
  rw [List.cons_head?_tail hhead]

theorem parameterName?_eq_some_iff {name : List Char} :
    parameterName? cs = some name ↔ IsKeyParameter name ∧ ∃ rest, cs = name ++ '=' :: rest := by
  refine ⟨parameterName?_sound, ?_⟩
  rintro ⟨hname, rest, rfl⟩
  obtain ⟨word, hword, hspells⟩ := hname
  cases hfound : parameterName? (name ++ '=' :: rest) with
  | none =>
      have hhere := List.findSome?_eq_none_iff.mp hfound word hword
      have hspelled : spelled? word.toList (name ++ '=' :: rest) = some name :=
        (spelled?_eq_some_iff (keyParameter_subset hword)).mpr ⟨List.prefix_append _ _, hspells⟩
      simp [hspelled] at hhere
  | some other =>
      -- Names hold no equals sign, so there is only one in front of the first of them.
      obtain ⟨hother, otherRest, heq⟩ := parameterName?_sound hfound
      have hname : IsKeyParameter name := ⟨word, hword, hspells⟩
      rw [(eq_of_append_equals hname.equals_notMem hother.equals_notMem heq).1]

/-! ## Key parameters -/

private theorem parameterPattern_eq (before : Option Char) (cs : List Char) :
    parameterPattern before cs =
      if before.any isWordCharacter then none
      else (parameterName? cs).bind fun name =>
        let value := (cs.drop (name.length + 1)).takeWhile isValueCharacter
        if value.isEmpty then none
        else some ⟨name ++ '=' :: redacted.toList, name.length + 1 + value.length⟩ := by
  rfl

/-- A key parameter behind the character `before`: its name begins a word, and its value goes on up
to what cannot belong to it. -/
structure KeyParameterAt (before : Option Char) (name value rest : List Char) : Prop where
  begins : before.any isWordCharacter = false
  name : IsKeyParameter name
  ne_nil : value ≠ []
  value : ∀ c ∈ value, isValueCharacter c = true
  ends : ∀ c ∈ rest.head?, isValueCharacter c = false

/-- **The pattern for key parameters** matches one, up to the end of its value. -/
theorem parameterPattern_eq_some_iff {found : Match} :
    parameterPattern before cs = some found ↔
      ∃ name value rest, KeyParameterAt before name value rest ∧
        cs = name ++ '=' :: (value ++ rest) ∧
        found = ⟨name ++ '=' :: redacted.toList, name.length + 1 + value.length⟩ := by
  have hdrop (name rest : List Char) : (name ++ '=' :: rest).drop (name.length + 1) = rest := by
    rw [← List.drop_drop, List.drop_left, List.drop_one, List.tail_cons]
  rw [parameterPattern_eq]
  constructor
  · intro hfound
    split_ifs at hfound with hword
    obtain ⟨name, hname, hvalue⟩ := Option.bind_eq_some_iff.mp hfound
    obtain ⟨hkey, rest, rfl⟩ := parameterName?_eq_some_iff.mp hname
    simp only [hdrop] at hvalue
    split_ifs at hvalue with hempty
    refine ⟨name, rest.takeWhile isValueCharacter, rest.dropWhile isValueCharacter,
      ⟨Bool.eq_false_iff.mpr hword, hkey, ?_, fun c hc => List.mem_takeWhile_imp hc,
        ends_dropWhile isValueCharacter rest⟩, ?_, (Option.some.inj hvalue).symm⟩
    · rintro hnil
      simp [hnil] at hempty
    · rw [List.takeWhile_append_dropWhile]
  · rintro ⟨name, value, rest, ⟨hword, hkey, hne, hvalue, hends⟩, rfl, rfl⟩
    have hname := parameterName?_eq_some_iff.mpr ⟨hkey, value ++ rest, rfl⟩
    have hrun : (value ++ rest).takeWhile isValueCharacter = value :=
      takeWhile_append_of_ends hvalue hends
    rw [hword, if_neg Bool.false_ne_true, hname, Option.bind_some, hdrop, hrun]
    simp [hne]

theorem parameterPattern_of_isWordCharacter {c : Char} (hc : isWordCharacter c = true) :
    parameterPattern (some c) cs = none := by
  rw [parameterPattern_eq, Option.any_some, if_pos hc]

theorem parameterPattern_eq_none_iff :
    parameterPattern before cs = none ↔ ∀ name value rest, cs = name ++ '=' :: (value ++ rest) →
      ¬KeyParameterAt before name value rest := by
  constructor
  · rintro hnone name value rest rfl hat
    rw [parameterPattern_eq_some_iff.mpr ⟨name, value, rest, hat, rfl, rfl⟩] at hnone
    cases hnone
  · intro hnot
    cases hfound : parameterPattern before cs with
    | none => rfl
    | some found =>
        obtain ⟨name, value, rest, hat, hcut, -⟩ := parameterPattern_eq_some_iff.mp hfound
        exact absurd hat (hnot name value rest hcut)

/-- A key parameter whose value goes on as far as it can. -/
theorem keyParameterAt_takeWhile {name rest : List Char}
    (hbegins : before.any isWordCharacter = false) (hname : IsKeyParameter name)
    (hrest : ∃ c ∈ rest.head?, isValueCharacter c = true) :
    KeyParameterAt before name (rest.takeWhile isValueCharacter)
      (rest.dropWhile isValueCharacter) := by
  obtain ⟨c, hc, hvalue⟩ := hrest
  obtain ⟨rest, rfl⟩ := List.head?_eq_some_iff.mp hc
  exact ⟨hbegins, hname, by simp [hvalue], fun d hd => List.mem_takeWhile_imp hd,
    ends_dropWhile isValueCharacter (c :: rest)⟩

theorem parameterPattern_ne_none {name rest : List Char}
    (hbegins : before.any isWordCharacter = false) (hname : IsKeyParameter name)
    (hrest : ∃ c ∈ rest.head?, isValueCharacter c = true) :
    parameterPattern before (name ++ '=' :: rest) ≠ none := by
  have hmatch := parameterPattern_eq_some_iff.mpr
    ⟨_, _, _, keyParameterAt_takeWhile hbegins hname hrest, rfl, rfl⟩
  rw [List.takeWhile_append_dropWhile] at hmatch
  rw [hmatch]
  exact Option.some_ne_none _

/-- A match of the pattern, as the part of the text that it takes up. -/
theorem matched_parameter {matched rest replacement : List Char}
    (hfound : parameterPattern before (matched ++ rest) = some ⟨replacement, matched.length⟩) :
    ∃ name value, KeyParameterAt before name value rest ∧ matched = name ++ '=' :: value ∧
      replacement = name ++ '=' :: redacted.toList := by
  obtain ⟨name, value, rest', hat, hcut, hmatch⟩ := parameterPattern_eq_some_iff.mp hfound
  obtain ⟨rfl, hlength⟩ := Match.mk.inj hmatch
  have hparts : matched ++ rest = (name ++ '=' :: value) ++ rest' := by
    rw [hcut, List.append_assoc, List.cons_append]
  have hsame : matched.length = (name ++ '=' :: value).length := by
    rw [hlength, List.length_append, List.length_cons]
    omega
  obtain ⟨rfl, rfl⟩ := List.append_inj hparts hsame
  exact ⟨name, value, hat, rfl, rfl⟩

/-! ## Credentials -/

/-- Does the character belong to a credential? -/
def isCredentialCharacter (c : Char) : Bool :=
  c != '\'' && !isBlank c

/-- A credential: the name of its scheme, blanks, and at least 16 characters. -/
def IsCredential (scheme : String) (w : List Char) : Prop :=
  ∃ blanks value, w = scheme.toList ++ (blanks ++ value) ∧ blanks ≠ [] ∧
    (∀ c ∈ blanks, isBlank c = true) ∧ 16 ≤ value.length ∧
    ∀ c ∈ value, isCredentialCharacter c = true

/-- What stands for a credential. -/
def stampedCredential (scheme : String) : List Char :=
  scheme.toList ++ ' ' :: redacted.toList

theorem stampedCredential_append (scheme : String) (cs : List Char) :
    stampedCredential scheme ++ cs = scheme.toList ++ ' ' :: (redacted.toList ++ cs) :=
  List.append_assoc ..

theorem not_isBlank_of_isCredentialCharacter {c : Char} (hc : isCredentialCharacter c = true) :
    isBlank c = false := by
  rw [isCredentialCharacter, Bool.and_eq_true, Bool.not_eq_true'] at hc
  exact hc.2

theorem isValueCharacter_eq_false {c : Char} (hc : isCredentialCharacter c = false) :
    isValueCharacter c = false := by
  rw [isCredentialCharacter] at hc
  rw [isValueCharacter, Bool.and_assoc, hc, Bool.and_false]

private theorem credentialPattern_eq (scheme : String) (before : Option Char) (cs : List Char) :
    credentialPattern scheme before cs =
      (afterPrefix? scheme.toList cs).bind fun rest =>
        let blanks := rest.takeWhile isBlank
        let value := (rest.drop blanks.length).takeWhile isCredentialCharacter
        if blanks.isEmpty ∨ value.length < 16 then none
        else some ⟨stampedCredential scheme, scheme.length + blanks.length + value.length⟩ := by
  rfl

/-- **The pattern for credentials** matches one, up to the end of its value. -/
theorem credentialPattern_eq_some_iff {scheme : String} {found : Match} :
    credentialPattern scheme before cs = some found ↔
      ∃ w rest, cs = w ++ rest ∧ IsCredential scheme w ∧
        (∀ c ∈ rest.head?, isCredentialCharacter c = false) ∧
        found = ⟨stampedCredential scheme, w.length⟩ := by
  have hlength (blanks value : List Char) : (scheme.toList ++ (blanks ++ value)).length =
      scheme.length + blanks.length + value.length := by
    rw [List.length_append, List.length_append, String.length_toList, Nat.add_assoc]
  rw [credentialPattern_eq]
  constructor
  · intro hfound
    obtain ⟨rest, hrest, hvalue⟩ := Option.bind_eq_some_iff.mp hfound
    obtain rfl := afterPrefix?_eq_some_iff.mp hrest
    simp only at hvalue
    split_ifs at hvalue with hshort
    obtain ⟨hblanks, hlong⟩ := not_or.mp hshort
    have hparts := List.prefix_iff_eq_append.mp (List.takeWhile_prefix isBlank (l := rest))
    have hdrop : rest.drop (rest.takeWhile isBlank).length = rest.dropWhile isBlank :=
      List.append_cancel_left (hparts.trans List.takeWhile_append_dropWhile.symm)
    rw [hdrop] at hvalue hlong
    refine ⟨_, (rest.dropWhile isBlank).dropWhile isCredentialCharacter, ?_,
      ⟨rest.takeWhile isBlank, (rest.dropWhile isBlank).takeWhile isCredentialCharacter, rfl, ?_,
        fun c hc => List.mem_takeWhile_imp hc, Nat.le_of_not_lt hlong,
        fun c hc => List.mem_takeWhile_imp hc⟩, ends_dropWhile _ _, ?_⟩
    · rw [List.append_assoc, List.append_assoc, List.takeWhile_append_dropWhile,
        List.takeWhile_append_dropWhile]
    · simpa using hblanks
    · rw [hlength]
      exact (Option.some.inj hvalue).symm
  · rintro ⟨w, rest, rfl, ⟨blanks, value, rfl, hne, hblanks, hlong, hvalue⟩, hends, rfl⟩
    have hrest : afterPrefix? scheme.toList (scheme.toList ++ (blanks ++ value) ++ rest) =
        some (blanks ++ (value ++ rest)) := by
      rw [afterPrefix?_eq_some_iff, List.append_assoc, List.append_assoc]
    have hrun : (blanks ++ (value ++ rest)).takeWhile isBlank = blanks := by
      refine takeWhile_append_of_ends hblanks fun c hc => ?_
      cases value with
      | nil => exact absurd hlong (by decide)
      | cons d value =>
          obtain rfl : d = c := Option.some.inj hc
          exact not_isBlank_of_isCredentialCharacter (hvalue d List.mem_cons_self)
    have hcharacters : (value ++ rest).takeWhile isCredentialCharacter = value :=
      takeWhile_append_of_ends hvalue hends
    rw [hrest, Option.bind_some, hrun]
    dsimp only
    rw [List.drop_left, hcharacters, hlength]
    exact if_neg (not_or.mpr ⟨by simpa using hne, Nat.not_lt.mpr hlong⟩)

theorem credentialPattern_eq_none_iff {scheme : String} :
    credentialPattern scheme before cs = none ↔ ∀ w, w <+: cs → ¬IsCredential scheme w := by
  constructor
  · rintro hnone w ⟨rest, rfl⟩ ⟨blanks, value, rfl, hne, hblanks, hlong, hvalue⟩
    -- The value goes on as far as it can.
    have hwhole : IsCredential scheme
        (scheme.toList ++ (blanks ++ (value ++ rest.takeWhile isCredentialCharacter))) := by
      refine ⟨blanks, _, rfl, hne, hblanks, ?_, ?_⟩
      · rw [List.length_append]
        omega
      · intro c hc
        exact (List.mem_append.mp hc).elim (hvalue c) fun hin => List.mem_takeWhile_imp hin
    have hcut : scheme.toList ++ (blanks ++ value) ++ rest =
        scheme.toList ++ (blanks ++ (value ++ rest.takeWhile isCredentialCharacter)) ++
          rest.dropWhile isCredentialCharacter := by
      simp
    have hends := ends_dropWhile isCredentialCharacter rest
    rw [credentialPattern_eq_some_iff.mpr ⟨_, _, hcut, hwhole, hends, rfl⟩] at hnone
    cases hnone
  · intro hnot
    cases hfound : credentialPattern scheme before cs with
    | none => rfl
    | some found =>
        obtain ⟨w, rest, rfl, hw, -⟩ := credentialPattern_eq_some_iff.mp hfound
        exact absurd hw (hnot w (List.prefix_append _ _))

/-- A match of the pattern, as the part of the text that it takes up. -/
theorem matched_credential {scheme : String} {matched rest replacement : List Char}
    (hfound : credentialPattern scheme before (matched ++ rest) =
      some ⟨replacement, matched.length⟩) :
    IsCredential scheme matched ∧ replacement = stampedCredential scheme ∧
      ∀ c ∈ rest.head?, isCredentialCharacter c = false := by
  obtain ⟨w, rest', hcut, hw, hends, hmatch⟩ := credentialPattern_eq_some_iff.mp hfound
  obtain ⟨rfl, hlength⟩ := Match.mk.inj hmatch
  obtain ⟨rfl, rfl⟩ := List.append_inj hcut hlength
  exact ⟨hw, rfl, hends⟩

end ToolAssistant.Text
