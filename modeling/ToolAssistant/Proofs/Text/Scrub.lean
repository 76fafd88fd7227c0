import ToolAssistant.Proofs.Text.Secrets

/-!
# What scrubbing leaves

A text is scrubbed of what looks like a secret, and of nothing else.  Of a key that no pattern knows
by its shape, what counts is where it stands: in the value of a key parameter it goes, elsewhere it
stays.

## Strategy

`Replaces` is the walk of `replaceAll` as a relation, with a match passed over as a whole; what is
shown of one pattern is shown by induction on it.  All patterns put the same stamp behind a piece of
what they match (`Stamps`).  A word that is no part of the stamp cannot reach into it, so none is
made by it (`Replaces.infix_of_infix_out`).  What the pattern for key parameters leaves is then read
off its matches: they begin where a word begins and end where a value ends.
-/

namespace ToolAssistant.Text

variable {pattern : Pattern} {before : Option Char} {cs out w : List Char}

/-! ## Replacing -/

/-- What lies in a text, but not over one of its characters, lies on one side of it. -/
theorem infix_append_cons {a : Char} {x y : List Char} (ha : a ∉ w) (hw : w <:+: x ++ a :: y) :
    w <:+: x ∨ w <:+: y := by
  induction x with
  | nil =>
      rcases List.infix_cons_iff.mp hw with hbegins | hlies
      · exact Or.inl (prefix_of_prefix_append_cons (x := []) ha hbegins).isInfix
      · exact Or.inr hlies
  | cons c x ih =>
      rcases List.infix_cons_iff.mp hw with hbegins | hlies
      · exact Or.inl (prefix_of_prefix_append_cons (x := c :: x) ha hbegins).isInfix
      · rcases ih hlies with hleft | hright
        · exact Or.inl (List.infix_cons hleft)
        · exact Or.inr hright

/-- A pattern stamps what it matches: it keeps the beginning of the match and at most one character
after it, and puts the stamp behind them. -/
def Stamps (pattern : Pattern) : Prop :=
  ∀ before cs found, pattern before cs = some found →
    0 < found.length ∧ found.length ≤ cs.length ∧
      ∃ kept glue, found.replacement = kept ++ glue ++ redacted.toList ∧ kept <+: cs ∧
        glue ∈ [[], ['='], [' ']]

/-- What is left of a text when the matches of a pattern are replaced: a character at which nothing
matches is kept, and a match is passed over as a whole. -/
inductive Replaces (pattern : Pattern) : Option Char → List Char → List Char → Prop where
  | done (before : Option Char) : Replaces pattern before [] []
  | keep {before : Option Char} {c : Char} {rest out : List Char}
      (hnone : pattern before (c :: rest) = none) (hrest : Replaces pattern (some c) rest out) :
      Replaces pattern before (c :: rest) (c :: out)
  | replace {before : Option Char} {matched rest out replacement : List Char}
      (hmatched : matched ≠ [])
      (hfound : pattern before (matched ++ rest) = some ⟨replacement, matched.length⟩)
      (hrest : Replaces pattern matched.getLast? rest out) :
      Replaces pattern before (matched ++ rest) (replacement ++ out)

private theorem replaceFrom_skipped (pattern : Pattern) (before : Option Char)
    (skipped rest : List Char) :
    replaceFrom pattern before skipped.length (skipped ++ rest) =
      replaceFrom pattern (skipped.getLast?.or before) 0 rest := by
  induction skipped generalizing before with
  | nil => rfl
  | cons c skipped ih =>
      rw [List.length_cons, List.cons_append, replaceFrom, ih]
      congr 1
      cases skipped <;> simp [List.getLast?_cons]

/-- **Replacing all matches leaves what `Replaces` says.** -/
theorem replaceAll_replaces (hstamps : Stamps pattern) (cs : List Char) :
    Replaces pattern none cs (replaceAll pattern cs) := by
  -- A match is passed over as a whole, so the induction is on the length.
  have hreplaces : ∀ (n : ℕ) (before : Option Char) (cs : List Char), cs.length = n →
      Replaces pattern before cs (replaceFrom pattern before 0 cs) := by
    intro n
    induction n using Nat.strong_induction_on with
    | _ n ih =>
        intro before cs hn
        cases cs with
        | nil => exact .done before
        | cons c rest =>
            cases hfound : pattern before (c :: rest) with
            | none =>
                rw [replaceFrom, hfound]
                exact .keep hfound (ih rest.length (by simp [← hn]) _ rest rfl)
            | some found =>
                obtain ⟨hpositive, hlength, -⟩ := hstamps before (c :: rest) found hfound
                obtain ⟨skipped, rest, rfl, hskipped⟩ : ∃ skipped later, rest = skipped ++ later ∧
                    skipped.length = found.length - 1 := by
                  refine ⟨rest.take (found.length - 1), rest.drop (found.length - 1),
                    (List.take_append_drop _ _).symm, ?_⟩
                  rw [List.length_cons] at hlength
                  rw [List.length_take]
                  omega
                have hlast : skipped.getLast?.or (some c) = (c :: skipped).getLast? := by
                  cases skipped <;> simp [List.getLast?_cons]
                have hmatch : found = ⟨found.replacement, (c :: skipped).length⟩ := by
                  rw [List.length_cons, hskipped, Nat.sub_add_cancel hpositive]
                have hshorter : rest.length < n := by
                  rw [← hn, List.length_cons, List.length_append]
                  omega
                rw [replaceFrom, hfound]
                dsimp only
                rw [← hskipped, replaceFrom_skipped, hlast]
                exact .replace (List.cons_ne_nil c skipped) (hfound.trans (congrArg some hmatch))
                  (ih rest.length hshorter _ rest rfl)
  exact hreplaces cs.length none cs rfl

theorem Replaces.eq_of_unmatched (hreplaces : Replaces pattern before cs out)
    (hnone : ∀ at?, ∀ rest, rest <:+ cs → rest ≠ [] → pattern at? rest = none) : out = cs := by
  induction hreplaces with
  | done => rfl
  | keep _ _ ih =>
      rw [ih fun at? rest hrest => hnone at? rest (hrest.trans (List.suffix_cons _ _))]
  | replace hmatched hfound _ _ =>
      rw [hnone _ _ (List.suffix_refl _) (by simp [hmatched])] at hfound
      cases hfound

/-- What holds no mark and is left was there before, if what a replacement puts in front of a mark
is the beginning of what it replaces. -/
theorem Replaces.prefix_of_unmarked
    (hkeeps : ∀ before cs found, pattern before cs = some found → ∃ kept mark more,
      found.replacement = kept ++ mark :: more ∧ kept <+: cs ∧ mark ∉ w)
    (hreplaces : Replaces pattern before cs out) (hw : w <+: out) : w <+: cs := by
  induction hreplaces generalizing w with
  | done => exact hw
  | keep _ _ ih =>
      cases w with
      | nil => exact List.nil_prefix
      | cons d w =>
          obtain ⟨rfl, hrest⟩ := List.cons_prefix_cons.mp hw
          refine List.cons_prefix_cons.mpr ⟨rfl, ih ?_ hrest⟩
          intro before cs found hfound
          obtain ⟨kept, mark, more, hreplacement, hkept, hmark⟩ := hkeeps before cs found hfound
          exact ⟨kept, mark, more, hreplacement, hkept, List.not_mem_of_not_mem_cons hmark⟩
  | replace _ hfound _ _ =>
      obtain ⟨kept, mark, more, hreplacement, hkept, hmark⟩ := hkeeps _ _ _ hfound
      dsimp only at hreplacement
      rw [hreplacement, List.append_assoc] at hw
      exact (prefix_of_prefix_append_cons hmark hw).trans hkept

/-- The characters of a stamp that are not letters. -/
def stampMarks : List Char := ['[', ']', '=', ' ']

private theorem glue_cases {glue : List Char} (hglue : glue ∈ [[], ['='], [' ']]) :
    glue = [] ∨ ∃ mark ∈ stampMarks, glue = [mark] := by
  rcases List.mem_cons.mp hglue with rfl | hglue
  · exact Or.inl rfl
  · rcases List.mem_cons.mp hglue with rfl | hglue
    · exact Or.inr ⟨'=', by decide, rfl⟩
    · exact Or.inr ⟨' ', by decide, List.mem_singleton.mp hglue⟩

section Stamps

variable (hmarks : ∀ mark ∈ stampMarks, mark ∉ w)

include hmarks

theorem infix_of_infix_stamp {kept glue rest : List Char}
    (hglue : glue ∈ [[], ['='], [' ']]) (hw : w <:+: kept ++ glue ++ redacted.toList ++ rest) :
    w <:+: kept ∨ w <:+: "REDACTED".toList ∨ w <:+: rest := by
  have hopens : '[' ∉ w := hmarks '[' (by decide)
  have hcloses : ']' ∉ w := hmarks ']' (by decide)
  have hstamp : kept ++ glue ++ redacted.toList ++ rest =
      (kept ++ glue) ++ '[' :: ("REDACTED".toList ++ ']' :: rest) := by
    rw [List.append_assoc (kept ++ glue)]
    rfl
  rw [hstamp] at hw
  rcases infix_append_cons hopens hw with hleft | hright
  · rcases glue_cases hglue with rfl | ⟨mark, hmark, rfl⟩
    · rw [List.append_nil] at hleft
      exact Or.inl hleft
    · rcases infix_append_cons (hmarks mark hmark) hleft with hkept | hnil
      · exact Or.inl hkept
      · exact Or.inl (hnil.trans (List.nil_infix))
  · exact Or.inr (infix_append_cons hcloses hright)

theorem prefix_of_stamped (hstamps : Stamps pattern)
    (hreplaces : Replaces pattern before cs out) (hw : w <+: out) : w <+: cs := by
  refine hreplaces.prefix_of_unmarked ?_ hw
  intro before cs found hfound
  obtain ⟨-, -, kept, glue, hreplacement, hkept, hglue⟩ := hstamps before cs found hfound
  rw [hreplacement]
  rcases glue_cases hglue with rfl | ⟨mark, hmark, rfl⟩
  · exact ⟨kept, '[', "REDACTED]".toList, by rw [List.append_nil]; rfl, hkept,
      hmarks '[' (by decide)⟩
  · exact ⟨kept, mark, redacted.toList, by rw [List.append_assoc]; rfl, hkept, hmarks mark hmark⟩

/-- **Stamping makes no new words.** -/
theorem Replaces.infix_of_infix_out (hstamps : Stamps pattern)
    (hreplaces : Replaces pattern before cs out) (hstamp : ¬w <:+: "REDACTED".toList)
    (hw : w <:+: out) : w <:+: cs := by
  induction hreplaces with
  | done => exact hw
  | keep hnone hrest ih =>
      rcases List.infix_cons_iff.mp hw with hbegins | hlies
      · exact (prefix_of_stamped hmarks hstamps (.keep hnone hrest) hbegins).isInfix
      · exact List.infix_cons (ih hlies)
  | replace _ hfound _ ih =>
      obtain ⟨-, -, kept, glue, hreplacement, hkept, hglue⟩ := hstamps _ _ _ hfound
      dsimp only at hreplacement
      rw [hreplacement] at hw
      rcases infix_of_infix_stamp hmarks hglue hw with hleft | hmid | hright
      · exact hleft.trans hkept.isInfix
      · exact absurd hmid hstamp
      · exact (ih hright).trans (List.suffix_append _ _).isInfix

end Stamps

/-! ## The patterns -/

theorem apiKeyPattern_stamps : Stamps apiKeyPattern := by
  intro before cs found hfound
  obtain ⟨w, rest, rfl, ⟨body, rfl, -⟩, rfl⟩ := apiKeyPattern_eq_some_iff.mp hfound
  refine ⟨?_, (List.prefix_append _ rest).length_le, [], [], rfl, List.nil_prefix, by decide⟩
  dsimp only
  rw [List.length_append]
  exact Nat.lt_of_lt_of_le (by decide) (Nat.le_add_right _ _)

theorem parameterPattern_stamps : Stamps parameterPattern := by
  intro before cs found hfound
  obtain ⟨name, value, rest, -, rfl, rfl⟩ := parameterPattern_eq_some_iff.mp hfound
  refine ⟨by dsimp only; omega, ?_, name, ['='], by simp, List.prefix_append _ _, by decide⟩
  rw [List.length_append, List.length_cons, List.length_append]
  dsimp only
  omega

theorem credentialPattern_stamps {scheme : String} : Stamps (credentialPattern scheme) := by
  intro before cs found hfound
  obtain ⟨w, rest, rfl, ⟨blanks, value, rfl, -, -, hlong, -⟩, -, rfl⟩ :=
    credentialPattern_eq_some_iff.mp hfound
  refine ⟨?_, (List.prefix_append _ rest).length_le, scheme.toList, [' '], ?_, ?_, by decide⟩
  · dsimp only
    rw [List.length_append, List.length_append]
    omega
  · rw [List.append_assoc]
    rfl
  · rw [List.append_assoc]
    exact List.prefix_append _ _

/-! ## What the pattern for key parameters leaves -/

/-- A text like a key: longer than the stamp and than any name of a key parameter, and of characters
that may stand in words and in values. -/
structure IsKeyText (w : List Char) : Prop where
  long : 8 < w.length
  word : ∀ c ∈ w, isWordCharacter c = true
  value : ∀ c ∈ w, isValueCharacter c = true
  marks : ∀ mark ∈ stampMarks, mark ∉ w

/-- A text ends within the value of a key parameter, if `before` stands in front of it. -/
def EndsInKeyParameter (before : Option Char) (u : List Char) : Prop :=
  ∃ earlier name part, u = earlier ++ (name ++ '=' :: part) ∧
    (earlier.getLast?.or before).any isWordCharacter = false ∧ IsKeyParameter name ∧
    ∀ c ∈ part, isValueCharacter c = true

/-- A word stands somewhere in a text, and not in the value of a key parameter. -/
def StandsFree (before : Option Char) (w cs : List Char) : Prop :=
  ∃ u v, cs = u ++ (w ++ v) ∧ ¬EndsInKeyParameter before u

section KeyText

variable (hw : IsKeyText w)

include hw

theorem IsKeyText.ne_nil : w ≠ [] := by
  rintro rfl
  exact absurd hw.long (by decide)

theorem IsKeyText.not_infix_stamp : ¬w <:+: "REDACTED".toList := by
  intro hlies
  have hlength : w.length ≤ 8 := hlies.length_le
  have hlong := hw.long
  omega

end KeyText

theorem not_endsInKeyParameter_nil : ¬EndsInKeyParameter before [] := by
  rintro ⟨earlier, name, part, hnil, -⟩
  simp at hnil

theorem getLast?_append_or {first : List Char} (hfirst : first ≠ []) (earlier : List Char) :
    (first ++ earlier).getLast?.or before = earlier.getLast?.or first.getLast? := by
  rw [List.getLast?_append]
  cases earlier.getLast? with
  | some c => rfl
  | none =>
      cases hlast : first.getLast? with
      | some c => rfl
      | none => exact absurd (List.getLast?_eq_none_iff.mp hlast) hfirst

theorem EndsInKeyParameter.append {first u : List Char} (hfirst : first ≠ [])
    (hu : EndsInKeyParameter first.getLast? u) : EndsInKeyParameter before (first ++ u) := by
  obtain ⟨earlier, name, part, rfl, hbound, hname, hpart⟩ := hu
  refine ⟨first ++ earlier, name, part, (List.append_assoc ..).symm, ?_, hname, hpart⟩
  rw [getLast?_append_or hfirst]
  exact hbound

/-- The key parameter begins behind a given beginning of the text, or within it. -/
private theorem EndsInKeyParameter.of_append {first u : List Char} (hfirst : first ≠ [])
    (hu : EndsInKeyParameter before (first ++ u)) :
    EndsInKeyParameter first.getLast? u ∨ ∃ earlier name part, ∃ c later,
      first = earlier ++ c :: later ∧ c :: later ++ u = name ++ '=' :: part ∧
        (earlier.getLast?.or before).any isWordCharacter = false ∧ IsKeyParameter name ∧
        ∀ c ∈ part, isValueCharacter c = true := by
  obtain ⟨earlier, name, part, heq, hbound, hname, hpart⟩ := hu
  rcases List.append_eq_append_iff.mp heq with ⟨more, rfl, hu⟩ | ⟨more, rfl, hmore⟩
  · rw [getLast?_append_or hfirst] at hbound
    exact Or.inl ⟨more, name, part, hu, hbound, hname, hpart⟩
  · cases more with
    | nil =>
        rw [List.append_nil] at hfirst ⊢
        refine Or.inl ⟨[], name, part, hmore.symm, ?_, hname, hpart⟩
        have hlast : (earlier ++ []).getLast?.or before = ([].getLast?).or earlier.getLast? :=
          getLast?_append_or hfirst []
        rw [List.append_nil] at hlast
        rw [← hlast]
        exact hbound
    | cons c later =>
        exact Or.inr ⟨earlier, name, part, c, later, rfl, hmore.symm, hbound, hname, hpart⟩

private theorem prefix_left {c : Char} {word : List Char} (hc : isWordCharacter c = true)
    (hreplaces : Replaces parameterPattern (some c) cs out)
    (hword : ∀ d ∈ word, isWordCharacter d = true) (hbegins : word <+: cs) : word <+: out := by
  induction word generalizing c cs out with
  | nil => exact List.nil_prefix
  | cons d word ih =>
      obtain ⟨hd, hmore⟩ := List.forall_mem_cons.mp hword
      cases hreplaces with
      | done => simp at hbegins
      | keep _ hrest =>
          obtain ⟨rfl, hrestPrefix⟩ := List.cons_prefix_cons.mp hbegins
          exact List.cons_prefix_cons.mpr ⟨rfl, ih hd hrest hmore hrestPrefix⟩
      | replace _ hfound _ =>
          rw [parameterPattern_of_isWordCharacter hc] at hfound
          cases hfound

section Leaves

variable (hw : IsKeyText w)

include hw

private theorem head_value {part : List Char} (v : List Char)
    (hpart : ∀ c ∈ part, isValueCharacter c = true) :
    ∃ c ∈ (part ++ (w ++ v)).head?, isValueCharacter c = true := by
  cases part with
  | cons c part => exact ⟨c, rfl, hpart c List.mem_cons_self⟩
  | nil =>
      obtain ⟨c, rest, rfl⟩ := List.exists_cons_of_ne_nil hw.ne_nil
      exact ⟨c, rfl, hw.value c List.mem_cons_self⟩

/-- Where nothing is matched, no key parameter begins whose value goes on to the key. -/
private theorem not_endsInKeyParameter_cons {c : Char} {u v : List Char}
    (hnone : parameterPattern before (c :: (u ++ (w ++ v))) = none)
    (hu : ¬EndsInKeyParameter (some c) u) : ¬EndsInKeyParameter before (c :: u) := by
  intro hends
  have happended : EndsInKeyParameter before ([c] ++ u) := hends
  rcases happended.of_append (List.cons_ne_nil c []) with
    hlater | ⟨earlier, name, part, d, later, hfirst, hparts, hbound, hname, hpart⟩
  · exact hu hlater
  · obtain ⟨rfl, hd⟩ : earlier = [] ∧ d :: later = [c] := by
      cases earlier with
      | nil => exact ⟨rfl, hfirst.symm⟩
      | cons e earlier => simp at hfirst
    rw [hd] at hparts
    have hcut : c :: (u ++ (w ++ v)) = name ++ '=' :: (part ++ (w ++ v)) := by
      calc c :: (u ++ (w ++ v)) = ([c] ++ u) ++ (w ++ v) := by simp
        _ = name ++ '=' :: (part ++ (w ++ v)) := by rw [hparts]; simp
    rw [hcut] at hnone
    exact parameterPattern_ne_none hbound hname (head_value hw v hpart) hnone

/-- Where the value of a match ends, no value goes on to the key that began in the match. -/
private theorem not_endsInKeyParameter_append {matched u v : List Char} (hmatched : matched ≠ [])
    (hends : ∀ c ∈ (u ++ (w ++ v)).head?, isValueCharacter c = false)
    (hu : ¬EndsInKeyParameter matched.getLast? u) : ¬EndsInKeyParameter before (matched ++ u) := by
  intro happended
  rcases happended.of_append hmatched with
    hlater | ⟨earlier, name, part, d, later, -, hparts, -, hname, hpart⟩
  · exact hu hlater
  · -- All of that parameter behind its first character could stand in a value.
    have hgoesOn : ∀ c ∈ u, isValueCharacter c = true := by
      intro c hc
      have hmem : c ∈ name ++ '=' :: part := by
        rw [← hparts]
        exact List.mem_append_right _ hc
      rcases List.mem_append.mp hmem with hin | hin
      · exact (hname.characters.2.2 c hin).1
      · rcases List.mem_cons.mp hin with rfl | hin
        · decide
        · exact hpart c hin
    obtain ⟨c, hc, hvalue⟩ := head_value hw v hgoesOn
    rw [hends c hc] at hvalue
    cases hvalue

private theorem standsFree_of_infix_left (hreplaces : Replaces parameterPattern before cs out)
    (hleft : w <:+: out) : StandsFree before w cs := by
  induction hreplaces with
  | done => exact absurd (List.infix_nil.mp hleft) hw.ne_nil
  | keep hnone hrest ih =>
      rcases List.infix_cons_iff.mp hleft with hbegins | hlies
      · obtain ⟨v, hv⟩ := prefix_of_stamped hw.marks parameterPattern_stamps
          (.keep hnone hrest) hbegins
        exact ⟨[], v, hv.symm, not_endsInKeyParameter_nil⟩
      · obtain ⟨u, v, rfl, hu⟩ := ih hlies
        exact ⟨_ :: u, v, rfl, not_endsInKeyParameter_cons hw hnone hu⟩
  | @replace before matched rest out replacement hmatched hfound hrest ih =>
      obtain ⟨name, value, hat, -, hreplacement⟩ := matched_parameter hfound
      have hstamp : replacement ++ out = name ++ ['='] ++ redacted.toList ++ out := by
        rw [hreplacement]
        simp
      rw [hstamp] at hleft
      rcases infix_of_infix_stamp hw.marks (by decide) hleft with hin | hin | hin
      · have hlength := hin.length_le
        have hshort := hat.name.characters.2.1
        have hlong := hw.long
        omega
      · exact absurd hin hw.not_infix_stamp
      · obtain ⟨u, v, rfl, hu⟩ := ih hin
        exact ⟨matched ++ u, v, (List.append_assoc ..).symm,
          not_endsInKeyParameter_append hw hmatched hat.ends hu⟩

private theorem length_le_of_append_equals {left rest v : List Char}
    (hcut : w ++ v = left ++ '=' :: rest) : w.length ≤ left.length :=
  (prefix_of_prefix_append_cons (hw.marks '=' (by decide)) ⟨v, hcut⟩).length_le

private theorem infix_left (hreplaces : Replaces parameterPattern before cs out)
    {u v : List Char} (hcs : cs = u ++ (w ++ v)) (hu : ¬EndsInKeyParameter before u) :
    w <:+: out := by
  induction hreplaces generalizing u with
  | done =>
      have hnil : w = [] := (List.append_eq_nil_iff.mp (List.append_eq_nil_iff.mp hcs.symm).2).1
      exact absurd hnil hw.ne_nil
  | @keep before c rest out hnone hrest ih =>
      cases u with
      | cons d u =>
          obtain ⟨rfl, hlater⟩ := List.cons.inj hcs
          refine List.infix_cons (ih hlater ?_)
          intro hends
          exact hu (hends.append (List.cons_ne_nil c []))
      | nil =>
          obtain ⟨d, word, rfl⟩ := List.exists_cons_of_ne_nil hw.ne_nil
          obtain ⟨rfl, hlater⟩ := List.cons.inj hcs
          obtain ⟨hc, hword⟩ := List.forall_mem_cons.mp hw.word
          -- Within the key no word begins, so no match does.
          have hbegins := prefix_left hc hrest hword ⟨v, hlater.symm⟩
          exact (List.cons_prefix_cons.mpr ⟨rfl, hbegins⟩).isInfix
  | @replace before matched rest out replacement hmatched hfound hrest ih =>
      rcases List.append_eq_append_iff.mp hcs with ⟨more, rfl, hlater⟩ | ⟨more, hcut, hlater⟩
      · have hout := ih hlater fun hends => hu (hends.append hmatched)
        exact hout.trans (List.suffix_append _ _).isInfix
      · -- The key begins in the match: in its name, at the equals sign, or in its value.
        obtain ⟨name, value, hat, hparts, -⟩ := matched_parameter hfound
        have hlong := hw.long
        rcases List.append_eq_append_iff.mp (hcut.symm.trans hparts) with
          ⟨left, rfl, rfl⟩ | ⟨part, rfl, hpart⟩
        · have hlength : w.length ≤ left.length := by
            apply length_le_of_append_equals hw
            rw [hlater, List.append_assoc, List.cons_append]
          have hshort := hat.name.characters.2.1
          rw [List.length_append] at hshort
          omega
        · cases part with
          | nil =>
              have hlength : w.length ≤ ([] : List Char).length := by
                apply length_le_of_append_equals hw
                rw [hlater, ← List.nil_append more, ← hpart]
                rfl
              exact absurd hlength (by rw [List.length_nil]; omega)
          | cons c part =>
              obtain ⟨rfl, rfl⟩ := List.cons.inj hpart
              refine absurd ⟨[], name, part, rfl, hat.begins, hat.name, ?_⟩ hu
              intro c hc
              exact hat.value c (List.mem_append_left _ hc)

/-- **What is like a key is left where it does not stand in a key parameter, and only there.** -/
theorem infix_replaceAll_parameterPattern_iff :
    w <:+: replaceAll parameterPattern cs ↔ StandsFree none w cs := by
  have hreplaces := replaceAll_replaces parameterPattern_stamps cs
  refine ⟨standsFree_of_infix_left hw hreplaces, ?_⟩
  rintro ⟨u, v, hcs, hu⟩
  exact infix_left hw hreplaces hcs hu

end Leaves

/-! ## All patterns -/

theorem toList_scrub (text : String) :
    (scrub text).toList = replaceAll (credentialPattern "Token")
      (replaceAll (credentialPattern "Bearer")
        (replaceAll parameterPattern (replaceAll apiKeyPattern text.toList))) := by
  rw [scrub, String.toList_ofList]
  rfl

/-- Where the beginning of its matches does not occur, a pattern leaves all as it is. -/
private theorem replaceAll_of_absent {begins : List Char} (hstamps : Stamps pattern)
    (hbegins : ∀ before cs found, pattern before cs = some found → begins <+: cs)
    (hcs : ¬begins <:+: cs) : replaceAll pattern cs = cs := by
  refine (replaceAll_replaces hstamps cs).eq_of_unmatched ?_
  intro at? rest hrest _
  cases hfound : pattern at? rest with
  | none => rfl
  | some found => exact absurd ((hbegins _ _ _ hfound).isInfix.trans hrest.isInfix) hcs

theorem apiKeyPattern_begins {found : Match} (hfound : apiKeyPattern before cs = some found) :
    "AIza".toList <+: cs := by
  obtain ⟨w, rest, rfl, ⟨body, rfl, -⟩, -⟩ := apiKeyPattern_eq_some_iff.mp hfound
  rw [List.append_assoc]
  exact List.prefix_append _ _

theorem credentialPattern_begins {scheme : String} {found : Match}
    (hfound : credentialPattern scheme before cs = some found) : scheme.toList <+: cs := by
  obtain ⟨w, rest, rfl, ⟨blanks, value, rfl, -⟩, -⟩ := credentialPattern_eq_some_iff.mp hfound
  rw [List.append_assoc]
  exact List.prefix_append _ _

/-- No trace of the patterns other than the one for key parameters. -/
structure IsPlain (cs : List Char) : Prop where
  apiKey : ¬"AIza".toList <:+: cs
  bearer : ¬"Bearer".toList <:+: cs
  token : ¬"Token".toList <:+: cs

section KeyText

variable {text : String} (hw : IsKeyText w)

include hw

private theorem infix_of_infix_replaceAll (hstamps : Stamps pattern)
    (hleft : w <:+: replaceAll pattern cs) : w <:+: cs :=
  (replaceAll_replaces hstamps cs).infix_of_infix_out hw.marks hstamps hw.not_infix_stamp hleft

/-- Scrubbing brings no key into a text. -/
theorem infix_of_infix_scrub (hleft : w <:+: (scrub text).toList) : w <:+: text.toList := by
  rw [toList_scrub] at hleft
  have hparameters := infix_of_infix_replaceAll hw credentialPattern_stamps
    (infix_of_infix_replaceAll hw credentialPattern_stamps hleft)
  exact infix_of_infix_replaceAll hw apiKeyPattern_stamps
    (infix_of_infix_replaceAll hw parameterPattern_stamps hparameters)

/-- **A key parameter is scrubbed**, if the API keys that are replaced before leave its name. -/
theorem standsFree_of_infix_scrub (hleft : w <:+: (scrub text).toList) :
    StandsFree none w (replaceAll apiKeyPattern text.toList) := by
  rw [toList_scrub] at hleft
  have hparameters := infix_of_infix_replaceAll hw credentialPattern_stamps
    (infix_of_infix_replaceAll hw credentialPattern_stamps hleft)
  exact (infix_replaceAll_parameterPattern_iff hw).mp hparameters

/-- **Nothing but key parameters is scrubbed** from a text with no trace of the other patterns. -/
theorem infix_scrub_iff (hplain : IsPlain text.toList) :
    w <:+: (scrub text).toList ↔ StandsFree none w text.toList := by
  obtain ⟨hapi, hbearer, htoken⟩ := hplain
  have hkeys : replaceAll apiKeyPattern text.toList = text.toList :=
    replaceAll_of_absent apiKeyPattern_stamps (fun _ _ _ => apiKeyPattern_begins) hapi
  -- A scheme is no part of a stamp, so stamping parameters does not spell it.
  have hscheme {scheme : String} (hnone : ¬scheme.toList <:+: text.toList)
      (hmarks : ∀ mark ∈ stampMarks, mark ∉ scheme.toList)
      (hstamp : ¬scheme.toList <:+: "REDACTED".toList) :
      replaceAll (credentialPattern scheme) (replaceAll parameterPattern text.toList) =
        replaceAll parameterPattern text.toList := by
    refine replaceAll_of_absent credentialPattern_stamps
      (fun _ _ _ => credentialPattern_begins) ?_
    intro hlies
    exact hnone ((replaceAll_replaces parameterPattern_stamps text.toList).infix_of_infix_out hmarks
      parameterPattern_stamps hstamp hlies)
  rw [toList_scrub, hkeys, hscheme hbearer (by simp [stampMarks]) (by decide),
    hscheme htoken (by simp [stampMarks]) (by decide)]
  exact infix_replaceAll_parameterPattern_iff hw

end KeyText

end ToolAssistant.Text
