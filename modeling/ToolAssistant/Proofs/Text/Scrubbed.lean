import ToolAssistant.Proofs.Text.Scrub

/-!
# A scrubbed text stays as it is

Nothing that one of the four patterns could match is left in a scrubbed text, but for key parameters
whose value is the stamp.  Scrubbing it again leaves it as it is.

## Strategy

What a text shows is said position by position (`ShowsOnly`), so it also covers what overlaps.  A
text that shows only stamped parameters is a fixed point of all four replacements
(`scrub_eq_self_of_showsOnly`); the work is in showing that scrubbing leaves such a text.  Each
pattern clears what it matches, and no later one brings it back:

* API keys are longer than the stamp and hold none of its marks, so none is made
  (`Replaces.infix_of_infix_out`);
* within a credential no scheme begins that a blank follows, so a credential that is left was there
  before (`Replaces.prefix_of_credential`);
* a stamp ends in a mark that is in no parameter's name, and the run of characters behind what was
  matched is at its end, so a stamped value does not grow (`ParametersCarry.stamp`).
-/

namespace ToolAssistant.Text

variable {pattern : Pattern} {before : Option Char} {cs out w : List Char}

/-! ## Parts of texts -/

/-- What lies in two texts put together begins in the first, or lies in the second. -/
theorem infix_append {x y : List Char} (hw : w <:+: x ++ y) :
    (∃ z, z <:+ x ∧ z ≠ [] ∧ w <+: z ++ y) ∨ w <:+: y := by
  induction x with
  | nil => exact Or.inr hw
  | cons c x ih =>
      rcases List.infix_cons_iff.mp hw with hbegins | hlies
      · exact Or.inl ⟨c :: x, List.suffix_refl _, List.cons_ne_nil c x, hbegins⟩
      · exact (ih hlies).imp_left fun ⟨z, hz, hmore⟩ => ⟨z, hz.trans (List.suffix_cons c x), hmore⟩

theorem getLast?_cons_or {c : Char} (x : List Char) :
    (c :: x).getLast?.or before = x.getLast?.or (some c) :=
  getLast?_append_or (List.cons_ne_nil c []) x

/-- Two runs at the start of one text are the same, if each is as long as it can be. -/
theorem eq_of_runs {p : Char → Bool} {x y u v : List Char} (hx : ∀ c ∈ x, p c = true)
    (hu : ∀ c ∈ u.head?, p c = false) (hy : ∀ c ∈ y, p c = true) (hv : ∀ c ∈ v.head?, p c = false)
    (heq : x ++ u = y ++ v) : x = y := by
  rw [← takeWhile_append_of_ends hx hu, heq, takeWhile_append_of_ends hy hv]

/-! ## What a text shows -/

/-- The key parameters of a text have only values that are allowed. -/
def ParametersCarry (allowed : List Char → Prop) (before : Option Char) (cs : List Char) : Prop :=
  ∀ u name value rest, cs = u ++ (name ++ '=' :: (value ++ rest)) →
    KeyParameterAt (u.getLast?.or before) name value rest → allowed value

/-- No API key and no credential is anywhere in the text, and key parameters have only values that
are allowed. -/
structure ShowsOnly (allowed : List Char → Prop) (cs : List Char) : Prop where
  apiKey : ∀ w, w <:+: cs → ¬IsApiKey w
  bearer : ∀ w, w <:+: cs → ¬IsCredential "Bearer" w
  token : ∀ w, w <:+: cs → ¬IsCredential "Token" w
  parameter : ParametersCarry allowed none cs

/-- All key parameters of the text are stamped. -/
abbrev Settled : Option Char → List Char → Prop :=
  ParametersCarry (· = redacted.toList)

/-! ## Walking along a replacement -/

/-- Behind a character at which nothing is matched, what is left is what was there. -/
theorem Replaces.of_cons {c : Char} (hnone : ∀ cs, pattern before cs = none)
    (hreplaces : Replaces pattern before cs (c :: out)) :
    ∃ rest, cs = c :: rest ∧ Replaces pattern (some c) rest out := by
  generalize hout : c :: out = left at hreplaces
  cases hreplaces with
  | done => cases hout
  | keep _ hrest =>
      obtain ⟨rfl, rfl⟩ := List.cons.inj hout
      exact ⟨_, rfl, hrest⟩
  | replace _ hfound _ =>
      rw [hnone] at hfound
      cases hfound

/-- Where no replacement begins, what is left is what was there. -/
theorem Replaces.unreplaced {x later : List Char}
    (hx : ∀ c ∈ x, ∀ at? cs found, pattern at? cs = some found →
      ∃ d ∈ found.replacement.head?, d ≠ c)
    (hreplaces : Replaces pattern before cs (x ++ later)) :
    ∃ rest, cs = x ++ rest ∧ Replaces pattern (x.getLast?.or before) rest later := by
  induction x generalizing before cs with
  | nil => exact ⟨cs, rfl, hreplaces⟩
  | cons c x ih =>
      obtain ⟨hhere, hlater⟩ := List.forall_mem_cons.mp hx
      generalize hout : c :: x ++ later = out at hreplaces
      cases hreplaces with
      | done => cases hout
      | keep _ hrest =>
          obtain ⟨rfl, rfl⟩ := List.cons.inj hout
          obtain ⟨rest, rfl, hreplaces⟩ := ih hlater hrest
          exact ⟨rest, rfl, by rwa [getLast?_cons_or]⟩
      | replace _ hfound _ =>
          obtain ⟨d, hd, hne⟩ := hhere _ _ _ hfound
          obtain ⟨more, hmore⟩ := List.head?_eq_some_iff.mp hd
          dsimp only at hmore
          rw [hmore] at hout
          exact absurd (List.cons.inj hout).1.symm hne

/-- Where nothing is matched, what was there is left. -/
theorem Replaces.unmatched {x rest : List Char}
    (hx : ∀ y, y <:+ x → y ≠ [] → ∀ at?, pattern at? (y ++ rest) = none)
    (hreplaces : Replaces pattern before (x ++ rest) out) :
    ∃ later, out = x ++ later ∧ Replaces pattern (x.getLast?.or before) rest later := by
  induction x generalizing before out with
  | nil => exact ⟨out, rfl, hreplaces⟩
  | cons c x ih =>
      have hnone := hx (c :: x) (List.suffix_refl _) (List.cons_ne_nil c x)
      generalize hcs : c :: x ++ rest = cs at hreplaces
      cases hreplaces with
      | done => cases hcs
      | keep _ hrest =>
          obtain ⟨rfl, rfl⟩ := List.cons.inj hcs
          obtain ⟨later, rfl, hreplaces⟩ :=
            ih (fun y hy => hx y (hy.trans (List.suffix_cons c x))) hrest
          exact ⟨later, rfl, by rwa [getLast?_cons_or]⟩
      | replace _ hfound _ =>
          rw [← hcs, hnone] at hfound
          cases hfound

/-- A pattern that keeps the first character of what it matches. -/
def KeepsHead (pattern : Pattern) : Prop :=
  ∀ before matched rest replacement,
    pattern before (matched ++ rest) = some ⟨replacement, matched.length⟩ →
      replacement ≠ [] ∧ replacement.head? = matched.head?

theorem Replaces.head?_eq (hkeeps : KeepsHead pattern)
    (hreplaces : Replaces pattern before cs out) : out.head? = cs.head? := by
  cases hreplaces with
  | done => rfl
  | keep => rfl
  | replace hmatched hfound _ =>
      obtain ⟨hne, hhead⟩ := hkeeps _ _ _ _ hfound
      rw [List.head?_append_of_ne_nil _ hne, List.head?_append_of_ne_nil _ hmatched, hhead]

theorem parameterPattern_keepsHead : KeepsHead parameterPattern := by
  intro before matched rest replacement hfound
  obtain ⟨name, value, hat, rfl, rfl⟩ := matched_parameter hfound
  have hne := List.ne_nil_of_length_pos hat.name.characters.1
  refine ⟨by simp, ?_⟩
  rw [List.head?_append_of_ne_nil _ hne, List.head?_append_of_ne_nil _ hne]

/-! ## API keys -/

theorem not_isApiKey_nil : ¬IsApiKey [] := by
  rintro ⟨body, hnil, -⟩
  simp at hnil

theorem IsApiKey.not_infix_stamp (hw : IsApiKey w) : ¬w <:+: "REDACTED".toList := by
  obtain ⟨body, rfl, hbody, -⟩ := hw
  intro hlies
  have hlength := hlies.length_le
  rw [List.length_append, hbody] at hlength
  exact absurd hlength (by decide)

theorem IsApiKey.marks (hw : IsApiKey w) : ∀ mark ∈ stampMarks, mark ∉ w := by
  obtain ⟨body, rfl, -, hbody⟩ := hw
  have hmarks : ∀ mark ∈ stampMarks, mark ∉ "AIza".toList ∧ ¬IsKeyCharacter mark :=
    List.all_iff_forall_prop.mp (by decide)
  intro mark hmark hmem
  obtain ⟨hbegins, hkey⟩ := hmarks mark hmark
  exact (List.mem_append.mp hmem).elim hbegins fun hin => hkey (hbody mark hin)

/-- No API key is left where they are replaced. -/
theorem Replaces.not_isApiKey (hreplaces : Replaces apiKeyPattern before cs out)
    (hlies : w <:+: out) : ¬IsApiKey w := by
  intro hw
  induction hreplaces with
  | done =>
      rw [List.infix_nil.mp hlies] at hw
      exact not_isApiKey_nil hw
  | keep hnone hrest ih =>
      rcases List.infix_cons_iff.mp hlies with hbegins | hlater
      · have hback := prefix_of_stamped hw.marks apiKeyPattern_stamps (.keep hnone hrest) hbegins
        exact apiKeyPattern_eq_none_iff.mp hnone w hback hw
      · exact ih hlater
  | replace _ hfound _ ih =>
      obtain ⟨_, _, -, -, hmatch⟩ := apiKeyPattern_eq_some_iff.mp hfound
      obtain ⟨rfl, -⟩ := Match.mk.inj hmatch
      have hstamp : w <:+: [] ++ [] ++ redacted.toList ++ _ := hlies
      rcases infix_of_infix_stamp hw.marks (by decide) hstamp with hin | hin | hin
      · rw [List.infix_nil.mp hin] at hw
        exact not_isApiKey_nil hw
      · exact hw.not_infix_stamp hin
      · exact ih hin

/-! ## Credentials -/

/-- The authorization schemes whose credentials are replaced. -/
def schemes : List String := ["Bearer", "Token"]

/-- The characters with which their names begin. -/
def schemeInitials : List Char := ['B', 'T']

theorem isBlank_of_mem_schemeInitials {c : Char} (hc : c ∈ schemeInitials) : isBlank c = false := by
  have hall : ∀ c ∈ schemeInitials, isBlank c = false := List.all_iff_forall_prop.mp (by decide)
  exact hall c hc

/-- A scheme's name meets what stands for a credential only where that begins with it. -/
theorem eq_of_scheme_meets {scheme other : String} (hscheme : scheme ∈ schemes)
    (hother : other ∈ schemes) {x : List Char} (hx : x <:+ stampedCredential other) (hne : x ≠ [])
    (hmeets : scheme.toList <+: x ∨ x <+: scheme.toList) :
    x = stampedCredential other ∧ scheme = other := by
  have hall : ∀ scheme ∈ schemes, ∀ other ∈ schemes, ∀ x ∈ (stampedCredential other).tails,
      x ≠ [] → scheme.toList <+: x ∨ x <+: scheme.toList →
        x = stampedCredential other ∧ scheme = other := by decide
  exact hall scheme hscheme other hother x ((List.mem_tails _ _).mpr hx) hne hmeets

theorem not_isCredential_nil {scheme : String} : ¬IsCredential scheme [] := by
  rintro ⟨blanks, value, hnil, hne, -⟩
  simp [hne] at hnil

/-- What is not blank and left was there before. -/
theorem Replaces.prefix_of_unblank {scheme : String} (hblank : ' ' ∉ w)
    (hreplaces : Replaces (credentialPattern scheme) before cs out) (hw : w <+: out) :
    w <+: cs := by
  refine hreplaces.prefix_of_unmarked ?_ hw
  intro before cs found hfound
  have hbegins := credentialPattern_begins hfound
  obtain ⟨_, _, -, -, -, rfl⟩ := credentialPattern_eq_some_iff.mp hfound
  exact ⟨scheme.toList, ' ', redacted.toList, rfl, hbegins, hblank⟩

section Credentials

variable {scheme other : String} (hscheme : scheme ∈ schemes)

include hscheme

private theorem scheme_characters : ∃ d ∈ schemeInitials, ∃ tail, scheme.toList = d :: tail ∧
    ∀ c ∈ tail, c ∉ schemeInitials := by
  simp only [schemes, List.mem_cons, List.not_mem_nil, or_false] at hscheme
  rcases hscheme with rfl | rfl
  · exact ⟨'B', by decide, "earer".toList, rfl, List.all_iff_forall_prop.mp (by decide)⟩
  · exact ⟨'T', by decide, "oken".toList, rfl, List.all_iff_forall_prop.mp (by decide)⟩

theorem credentialPattern_keepsHead : KeepsHead (credentialPattern scheme) := by
  intro before matched rest replacement hfound
  obtain ⟨⟨blanks, value, rfl, -⟩, rfl, -⟩ := matched_credential hfound
  obtain ⟨d, -, tail, htail, -⟩ := scheme_characters hscheme
  rw [stampedCredential, htail]
  exact ⟨List.cons_ne_nil _ _, rfl⟩

/-- Where no scheme begins, what is left was there before. -/
theorem Replaces.unreplaced_credential {x later : List Char} (hx : ∀ c ∈ x, c ∉ schemeInitials)
    (hreplaces : Replaces (credentialPattern scheme) before cs (x ++ later)) :
    ∃ rest, cs = x ++ rest ∧
      Replaces (credentialPattern scheme) (x.getLast?.or before) rest later := by
  obtain ⟨d, hd, tail, htail, -⟩ := scheme_characters hscheme
  refine hreplaces.unreplaced ?_
  -- A replacement begins with the scheme.
  intro c hc at? cs found hfound
  obtain ⟨w, rest, -, -, -, rfl⟩ := credentialPattern_eq_some_iff.mp hfound
  refine ⟨d, by rw [stampedCredential, htail]; rfl, ?_⟩
  rintro rfl
  exact hx d hc hd

variable (hother : other ∈ schemes)

include hother

/-- **A credential that is left was there before**: behind its first character no scheme begins that
a blank follows. -/
theorem Replaces.prefix_of_credential {c : Char}
    (hreplaces : Replaces (credentialPattern other) (some c) cs out) (hw : IsCredential scheme w)
    (hbegins : w <+: c :: out) : w <+: c :: cs := by
  obtain ⟨blanks, value, rfl, hne, hblanks, hlong, hvalue⟩ := hw
  obtain ⟨d, -, tail, htail, hinitials⟩ := scheme_characters hscheme
  rw [htail, List.cons_append, ← List.append_assoc] at hbegins ⊢
  obtain ⟨rfl, later, rfl⟩ := List.cons_prefix_cons.mp hbegins
  have hx : ∀ e ∈ tail ++ blanks, e ∉ schemeInitials := by
    intro e he hmem
    rcases List.mem_append.mp he with hin | hin
    · exact hinitials e hin hmem
    · have hletter := isBlank_of_mem_schemeInitials hmem
      rw [hblanks e hin] at hletter
      cases hletter
  rw [List.append_assoc] at hreplaces
  obtain ⟨rest, rfl, hrest⟩ := hreplaces.unreplaced_credential hother hx
  have hblank : ' ' ∉ value := fun hmem => absurd (hvalue ' ' hmem) (by decide)
  have hback := hrest.prefix_of_unblank hblank (List.prefix_append _ _)
  exact List.cons_prefix_cons.mpr ⟨rfl, (List.prefix_append_right_inj _).mpr hback⟩

/-- What stands for a credential is too short to be one, if what follows it ends its value. -/
private theorem not_prefix_stamped {x : List Char} (hw : IsCredential scheme w)
    (hends : ∀ c ∈ out.head?, isCredentialCharacter c = false)
    (hx : x <:+ stampedCredential other) (hne : x ≠ []) : ¬w <+: x ++ out := by
  intro hbegins
  obtain ⟨blanks, value, rfl, hsome, hblanks, hlong, hvalue⟩ := hw
  obtain ⟨rfl, rfl⟩ := eq_of_scheme_meets hscheme hother hx hne
    (List.prefix_or_prefix_of_prefix ((List.prefix_append _ _).trans hbegins)
      (List.prefix_append _ _))
  -- Behind the scheme stands one blank, and then the stamp.
  obtain ⟨b, blanks, rfl⟩ := List.exists_cons_of_ne_nil hsome
  rw [stampedCredential_append] at hbegins
  have hrest := (List.prefix_append_right_inj _).mp hbegins
  obtain ⟨-, hrest⟩ := List.cons_prefix_cons.mp hrest
  cases blanks with
  | cons d blanks =>
      have hopens : d = '[' := (List.cons_prefix_cons.mp hrest).1
      have hblank := hblanks d (by simp)
      rw [hopens] at hblank
      exact absurd hblank (by decide)
  | nil =>
      have hrun : (redacted.toList ++ out).takeWhile isCredentialCharacter = redacted.toList :=
        takeWhile_append_of_ends (List.all_eq_true.mp (by decide)) hends
      obtain ⟨later, hlater⟩ := hrest
      have hwhole : value ++ later.takeWhile isCredentialCharacter = redacted.toList := by
        rw [← hrun, ← List.takeWhile_append_of_pos hvalue]
        exact congrArg _ hlater
      have hlengths := congrArg List.length hwhole
      have hstamp : redacted.toList.length = 10 := by decide
      rw [List.length_append, hstamp] at hlengths
      omega

/-- **No credential is left where its scheme's are replaced, and none comes up where the others' are
replaced.** -/
theorem Replaces.not_isCredential (hreplaces : Replaces (credentialPattern other) before cs out)
    (hcs : scheme = other ∨ ∀ w, w <:+: cs → ¬IsCredential scheme w) :
    ∀ w, w <:+: out → ¬IsCredential scheme w := by
  induction hreplaces with
  | done =>
      intro w hlies
      rw [List.infix_nil.mp hlies]
      exact not_isCredential_nil
  | keep hnone hrest ih =>
      intro w hlies hw
      rcases List.infix_cons_iff.mp hlies with hbegins | hlater
      · -- It was there before: matched right here, or against what is known of the text.
        have hback := hrest.prefix_of_credential hscheme hother hw hbegins
        rcases hcs with rfl | hcs
        · exact credentialPattern_eq_none_iff.mp hnone w hback hw
        · exact hcs w hback.isInfix hw
      · exact ih (hcs.imp_right fun h w hw => h w (List.infix_cons hw)) w hlater hw
  | @replace before matched rest out replacement hmatched hfound hrest ih =>
      intro w hlies hw
      obtain ⟨-, rfl, hends⟩ := matched_credential hfound
      rw [← hrest.head?_eq (credentialPattern_keepsHead hother)] at hends
      rcases infix_append hlies with ⟨x, hx, hne, hbegins⟩ | hlater
      · exact not_prefix_stamped hscheme hother hw hends hx hne hbegins
      · refine ih (hcs.imp_right fun h w hw => h w ?_) w hlater hw
        exact hw.trans (List.suffix_append _ _).isInfix

end Credentials

/-! ## Key parameters -/

variable {allowed : List Char → Prop} {at? : Option Char} {name value rest : List Char}

theorem ParametersCarry.of_append {first : List Char} (hfirst : first ≠ [])
    (hcs : ParametersCarry allowed before (first ++ cs)) :
    ParametersCarry allowed first.getLast? cs := by
  rintro u name value rest rfl hat
  refine hcs (first ++ u) name value rest (List.append_assoc ..).symm ?_
  rw [getLast?_append_or hfirst]
  exact hat

theorem ParametersCarry.cons {c : Char} (hcs : ParametersCarry allowed (some c) cs)
    (hhere : ∀ name value rest, c :: cs = name ++ '=' :: (value ++ rest) →
      KeyParameterAt before name value rest → allowed value) :
    ParametersCarry allowed before (c :: cs) := by
  intro u name value rest hcut hat
  cases u with
  | nil => exact hhere name value rest hcut hat
  | cons d u =>
      obtain ⟨rfl, hlater⟩ := List.cons.inj hcut
      rw [getLast?_cons_or] at hat
      exact hcs u name value rest hlater hat

/-- What stands in front of a text does not matter where no name can begin. -/
theorem ParametersCarry.of_ends (hends : ∀ c ∈ cs.head?, isValueCharacter c = false)
    (hcs : ParametersCarry allowed at? cs) : ParametersCarry allowed before cs := by
  intro u name value rest hcut hat
  cases u with
  | nil =>
      obtain ⟨c, name, rfl⟩ := List.exists_cons_of_length_pos hat.name.characters.1
      have hvalue := (hat.name.characters.2.2 c List.mem_cons_self).1
      rw [hends c (by rw [hcut]; rfl)] at hvalue
      cases hvalue
  | cons d u =>
      refine hcs (d :: u) name value rest hcut ?_
      rw [getLast?_cons_or] at hat ⊢
      exact hat

/-- In front of a mark that is no equals sign there are no key parameters but those with one. -/
theorem ParametersCarry.append {mark : Char} {x : List Char} (hmark : mark ∈ [']', ' '])
    (hx : '=' ∉ x) (hcs : ParametersCarry allowed (some mark) cs) :
    ParametersCarry allowed before (x ++ mark :: cs) := by
  have hapart : ∀ mark ∈ [']', ' '], mark ≠ '=' ∧ mark ∉ nameCharacters :=
    List.all_iff_forall_prop.mp (by decide)
  obtain ⟨hne, hnot⟩ := hapart mark hmark
  have hhere (x : List Char) (hx : '=' ∉ x) (name later : List Char) (hname : IsKeyParameter name) :
      x ++ mark :: cs ≠ name ++ '=' :: later := by
    intro hcut
    have hmarkless : mark ∉ name := by
      intro hmem
      refine hname.forall_mem (p := (· ≠ mark)) ?_ mark hmem rfl
      rintro c hc rfl
      exact hnot hc
    -- The name holds no mark, so its equals sign is the mark or stands in front of it.
    obtain ⟨more, rfl⟩ := prefix_of_prefix_append_cons hmarkless ⟨_, hcut.symm⟩
    rw [List.append_assoc] at hcut
    cases more with
    | nil => exact hne (List.cons.inj (List.append_cancel_left hcut)).1
    | cons c more =>
        obtain ⟨rfl, -⟩ := List.cons.inj (List.append_cancel_left hcut)
        exact hx (by simp)
  induction x generalizing before with
  | nil => exact hcs.cons fun name value rest hcut hat => absurd hcut (hhere [] hx _ _ hat.name)
  | cons c x ih =>
      refine ParametersCarry.cons (ih (List.not_mem_of_not_mem_cons hx)) ?_
      intro name value rest hcut hat
      exact absurd hcut (hhere (c :: x) hx _ _ hat.name)

/-- A stamp in front of a text that cannot continue it adds no key parameter. -/
theorem ParametersCarry.stamp (hends : ∀ c ∈ cs.head?, isValueCharacter c = false)
    (hcs : ParametersCarry allowed at? cs) :
    ParametersCarry allowed before (redacted.toList ++ cs) :=
  ParametersCarry.append (x := "[REDACTED".toList) (by decide) (by decide) (hcs.of_ends hends)

theorem forall_mem_stamp : ∀ c ∈ redacted.toList, isValueCharacter c = true :=
  List.all_eq_true.mp (by decide)

/-- The value of a key parameter that is stamped. -/
theorem Settled.stamp_of_head (hcs : Settled before (name ++ '=' :: cs))
    (hbegins : before.any isWordCharacter = false) (hname : IsKeyParameter name)
    (hhead : ∃ c ∈ cs.head?, isValueCharacter c = true) :
    ∃ rest, cs = redacted.toList ++ rest ∧ ∀ c ∈ rest.head?, isValueCharacter c = false := by
  have hstamp : cs.takeWhile isValueCharacter = redacted.toList := by
    refine hcs [] name _ (cs.dropWhile isValueCharacter) ?_
      (keyParameterAt_takeWhile hbegins hname hhead)
    rw [List.takeWhile_append_dropWhile]
    rfl
  refine ⟨cs.dropWhile isValueCharacter, ?_, ends_dropWhile isValueCharacter cs⟩
  rw [← hstamp, List.takeWhile_append_dropWhile]

/-- A stamp behind an equals sign. -/
theorem Settled.stamped {x : List Char} (hx : '=' ∉ x)
    (hends : ∀ c ∈ cs.head?, isValueCharacter c = false) (hcs : Settled at? cs) :
    Settled before (x ++ '=' :: (redacted.toList ++ cs)) := by
  have hhere (front : Option Char) (x : List Char) (hx : '=' ∉ x) (name value rest : List Char)
      (hcut : x ++ '=' :: (redacted.toList ++ cs) = name ++ '=' :: (value ++ rest))
      (hat : KeyParameterAt front name value rest) : value = redacted.toList := by
    obtain ⟨-, hvalues⟩ := eq_of_append_equals hx hat.name.equals_notMem hcut
    exact (eq_of_runs forall_mem_stamp hends hat.value hat.ends hvalues).symm
  induction x generalizing before with
  | nil => exact ParametersCarry.cons (hcs.stamp hends) (hhere before [] hx)
  | cons c x ih =>
      exact ParametersCarry.cons (ih (List.not_mem_of_not_mem_cons hx)) (hhere before (c :: x) hx)

/-- The name of a key parameter that is left was there before: within it no word begins. -/
theorem Replaces.unreplaced_name {c : Char} {name later : List Char}
    (hword : ∀ d ∈ c :: name, isWordCharacter d = true)
    (hreplaces : Replaces parameterPattern (some c) cs (name ++ '=' :: later)) :
    ∃ at?, ∃ rest, cs = name ++ '=' :: rest ∧ Replaces parameterPattern at? rest later := by
  induction name generalizing c cs with
  | nil =>
      obtain ⟨rest, rfl, hrest⟩ := hreplaces.of_cons fun _ =>
        parameterPattern_of_isWordCharacter (List.forall_mem_cons.mp hword).1
      exact ⟨_, rest, rfl, hrest⟩
  | cons d name ih =>
      obtain ⟨hc, hname⟩ := List.forall_mem_cons.mp hword
      obtain ⟨rest, rfl, hrest⟩ := hreplaces.of_cons fun _ =>
        parameterPattern_of_isWordCharacter hc
      obtain ⟨at?, later, rfl, hlater⟩ := ih hname hrest
      exact ⟨at?, later, rfl, hlater⟩

/-- **Where key parameters are replaced, all that are left are stamped.** -/
theorem Replaces.settled (hreplaces : Replaces parameterPattern before cs out) :
    Settled before out := by
  induction hreplaces with
  | done =>
      intro u name value rest hcut
      simp at hcut
  | @keep before c cs out hnone hrest ih =>
      refine ih.cons ?_
      intro name value rest hcut hat
      -- What is left begins with a key parameter, so the text does, and the pattern matches it.
      obtain ⟨d, name, rfl⟩ := List.exists_cons_of_length_pos hat.name.characters.1
      obtain ⟨rfl, rfl⟩ := List.cons.inj hcut
      obtain ⟨at?, rest', rfl, hvalue⟩ :=
        hrest.unreplaced_name (hat.name.forall_mem (List.all_eq_true.mp (by decide +kernel)))
      have hhead := hvalue.head?_eq parameterPattern_keepsHead
      obtain ⟨e, value, rfl⟩ := List.exists_cons_of_ne_nil hat.ne_nil
      have hmatch := parameterPattern_ne_none hat.begins hat.name
        ⟨e, hhead.symm, hat.value e List.mem_cons_self⟩
      exact absurd hnone hmatch
  | replace _ hfound hrest ih =>
      obtain ⟨name, value, hat, rfl, rfl⟩ := matched_parameter hfound
      have hends := hat.ends
      rw [← hrest.head?_eq parameterPattern_keepsHead] at hends
      rw [List.append_assoc, List.cons_append]
      exact ih.stamped hat.name.equals_notMem hends

section Credentials

variable {scheme : String} (hscheme : scheme ∈ schemes)

include hscheme

/-- A stamp is left where it stands: no scheme begins within it. -/
theorem Replaces.stamp_left
    (hreplaces : Replaces (credentialPattern scheme) before (redacted.toList ++ cs) out) :
    ∃ later, out = redacted.toList ++ later ∧ later.head? = cs.head? := by
  have hunmatched : ∀ x, x <:+ redacted.toList → x ≠ [] → ∀ at?,
      credentialPattern scheme at? (x ++ cs) = none := by
    intro x hx hne at?
    refine credentialPattern_eq_none_iff.mpr ?_
    rintro w hbegins ⟨blanks, value, rfl, -⟩
    have hstamp : redacted.toList <:+ stampedCredential scheme :=
      (List.suffix_cons _ _).trans (List.suffix_append _ _)
    obtain ⟨rfl, -⟩ := eq_of_scheme_meets hscheme hscheme (hx.trans hstamp) hne
      (List.prefix_or_prefix_of_prefix ((List.prefix_append _ _).trans hbegins)
        (List.prefix_append _ _))
    have hlength := hx.length_le
    rw [stampedCredential, List.length_append, List.length_cons] at hlength
    omega
  obtain ⟨later, rfl, hlater⟩ := hreplaces.unmatched hunmatched
  exact ⟨later, rfl, hlater.head?_eq (credentialPattern_keepsHead hscheme)⟩

/-- **Where credentials are replaced, stamped key parameters stay so.** -/
theorem Replaces.settled_of_settled (hreplaces : Replaces (credentialPattern scheme) before cs out)
    (hcs : Settled before cs) : Settled before out := by
  induction hreplaces with
  | done => exact hcs
  | @keep before c cs out hnone hrest ih =>
      refine (ih (hcs.of_append (List.cons_ne_nil c []))).cons ?_
      intro name value rest hcut hat
      obtain ⟨d, name, rfl⟩ := List.exists_cons_of_length_pos hat.name.characters.1
      obtain ⟨rfl, rfl⟩ := List.cons.inj hcut
      have hname : ∀ e ∈ name ++ ['='], e ∉ schemeInitials := by
        have hletters := hat.name.forall_mem (p := (· ∉ schemeInitials))
          (List.all_iff_forall_prop.mp (by decide))
        intro e he
        rcases List.mem_append.mp he with hin | hin
        · exact hletters e (List.mem_cons_of_mem _ hin)
        · rw [List.mem_singleton.mp hin]
          decide
      have hout : name ++ '=' :: (value ++ rest) = (name ++ ['=']) ++ (value ++ rest) := by simp
      rw [List.append_eq, hout] at hrest
      obtain ⟨there, rfl, hthere⟩ := hrest.unreplaced_credential hscheme hname
      have hhead : ∃ e ∈ there.head?, isValueCharacter e = true := by
        obtain ⟨e, value, rfl⟩ := List.exists_cons_of_ne_nil hat.ne_nil
        rw [← hthere.head?_eq (credentialPattern_keepsHead hscheme)]
        exact ⟨e, rfl, hat.value e List.mem_cons_self⟩
      -- The value that was there is the stamp, and the stamp is what is left.
      have hsettled : Settled before ((c :: name) ++ '=' :: there) := by
        rw [List.append_assoc] at hcs
        exact hcs
      obtain ⟨more, rfl, hends⟩ := hsettled.stamp_of_head hat.begins hat.name hhead
      obtain ⟨later, hlater, hsame⟩ := hthere.stamp_left hscheme
      rw [← hsame] at hends
      exact eq_of_runs hat.value hat.ends forall_mem_stamp hends hlater
  | replace hmatched hfound hrest ih =>
      obtain ⟨-, rfl, hends⟩ := matched_credential hfound
      rw [← hrest.head?_eq (credentialPattern_keepsHead hscheme)] at hends
      have hstamp : Settled (some ' ') (redacted.toList ++ _) :=
        (ih (hcs.of_append hmatched)).stamp fun c hc => isValueCharacter_eq_false (hends c hc)
      have hequals : '=' ∉ scheme.toList := by
        have hall : ∀ scheme ∈ schemes, '=' ∉ scheme.toList := by decide
        exact hall scheme hscheme
      rw [stampedCredential_append]
      exact hstamp.append (by decide) hequals

end Credentials

theorem Replaces.eq_of_settled (hreplaces : Replaces parameterPattern before cs out)
    (hcs : Settled before cs) : out = cs := by
  induction hreplaces with
  | done => rfl
  | @keep before c cs out _ _ ih => rw [ih (hcs.of_append (List.cons_ne_nil c []))]
  | @replace before matched rest out replacement hmatched hfound _ ih =>
      rw [ih (hcs.of_append hmatched)]
      obtain ⟨name, value, hat, rfl, rfl⟩ := matched_parameter hfound
      rw [hcs [] name value rest (by simp) hat]

/-! ## All patterns -/

theorem ShowsOnly.mono {permitted : List Char → Prop} (hshows : ShowsOnly allowed cs)
    (hallowed : ∀ value, allowed value → permitted value) : ShowsOnly permitted cs :=
  { hshows with
    parameter := fun u name value rest hcut hat =>
      hallowed value (hshows.parameter u name value rest hcut hat) }

/-- **Scrubbing leaves only stamped parameters.** -/
theorem showsOnly_scrub (text : String) :
    ShowsOnly (· = redacted.toList) (scrub text).toList := by
  have hbearer : "Bearer" ∈ schemes := by decide
  have htoken : "Token" ∈ schemes := by decide
  have hkeys := replaceAll_replaces apiKeyPattern_stamps text.toList
  have hparameters := replaceAll_replaces parameterPattern_stamps
    (replaceAll apiKeyPattern text.toList)
  have hbearers : Replaces (credentialPattern "Bearer") _ _ _ :=
    replaceAll_replaces credentialPattern_stamps
      (replaceAll parameterPattern (replaceAll apiKeyPattern text.toList))
  have htokens : Replaces (credentialPattern "Token") _ _ _ :=
    replaceAll_replaces credentialPattern_stamps (replaceAll (credentialPattern "Bearer")
      (replaceAll parameterPattern (replaceAll apiKeyPattern text.toList)))
  rw [toList_scrub]
  refine ⟨?_, ?_, ?_, ?_⟩
  · intro w hlies hw
    have hunborne := htokens.infix_of_infix_out hw.marks credentialPattern_stamps
      hw.not_infix_stamp hlies
    have hstamped := hbearers.infix_of_infix_out hw.marks credentialPattern_stamps
      hw.not_infix_stamp hunborne
    have hkeyless := hparameters.infix_of_infix_out hw.marks parameterPattern_stamps
      hw.not_infix_stamp hstamped
    exact hkeys.not_isApiKey hkeyless hw
  · exact htokens.not_isCredential hbearer htoken
      (Or.inr (hbearers.not_isCredential hbearer hbearer (Or.inl rfl)))
  · exact htokens.not_isCredential htoken htoken (Or.inl rfl)
  · exact htokens.settled_of_settled htoken
      (hbearers.settled_of_settled hbearer hparameters.settled)

/-- **A text with only stamped parameters is left as it is.** -/
theorem scrub_eq_self_of_showsOnly {text : String}
    (hshows : ShowsOnly (· = redacted.toList) text.toList) : scrub text = text := by
  have hkeys : replaceAll apiKeyPattern text.toList = text.toList := by
    refine (replaceAll_replaces apiKeyPattern_stamps _).eq_of_unmatched fun at? rest hrest _ => ?_
    exact apiKeyPattern_eq_none_iff.mpr fun w hw => hshows.apiKey w (hw.isInfix.trans hrest.isInfix)
  have hparameters : replaceAll parameterPattern text.toList = text.toList :=
    (replaceAll_replaces parameterPattern_stamps _).eq_of_settled hshows.parameter
  have hcredentials {scheme : String}
      (hnone : ∀ w, w <:+: text.toList → ¬IsCredential scheme w) :
      replaceAll (credentialPattern scheme) text.toList = text.toList := by
    refine (replaceAll_replaces credentialPattern_stamps _).eq_of_unmatched
      fun at? rest hrest _ => ?_
    exact credentialPattern_eq_none_iff.mpr fun w hw => hnone w (hw.isInfix.trans hrest.isInfix)
  rw [← String.toList_inj, toList_scrub, hkeys, hparameters, hcredentials hshows.bearer,
    hcredentials hshows.token]

/-- **What shows nothing** is what no pattern matches, from whatever position on. -/
theorem showsOnly_nothing_iff :
    ShowsOnly (fun _ => False) cs ↔
      ∀ pattern ∈ secretPatterns, ∀ u v, cs = u ++ v → pattern u.getLast? v = none := by
  constructor
  · rintro hshows pattern hpattern u v rfl
    simp only [secretPatterns, List.mem_cons, List.not_mem_nil, or_false] at hpattern
    have hwithin {w : List Char} (hw : w <+: v) : w <:+: u ++ v :=
      hw.isInfix.trans (List.suffix_append u v).isInfix
    rcases hpattern with rfl | rfl | rfl | rfl
    · exact apiKeyPattern_eq_none_iff.mpr fun w hw => hshows.apiKey w (hwithin hw)
    · refine parameterPattern_eq_none_iff.mpr fun name value rest hcut hat => ?_
      rw [← Option.or_none (o := u.getLast?)] at hat
      exact hshows.parameter u name value rest (by rw [hcut]) hat
    · exact credentialPattern_eq_none_iff.mpr fun w hw => hshows.bearer w (hwithin hw)
    · exact credentialPattern_eq_none_iff.mpr fun w hw => hshows.token w (hwithin hw)
  · intro hnone
    have hapi : apiKeyPattern ∈ secretPatterns := by simp [secretPatterns]
    have hparameters : parameterPattern ∈ secretPatterns := by simp [secretPatterns]
    have hbearer : credentialPattern "Bearer" ∈ secretPatterns := by simp [secretPatterns]
    have htoken : credentialPattern "Token" ∈ secretPatterns := by simp [secretPatterns]
    refine ⟨?_, ?_, ?_, ?_⟩
    · rintro w ⟨u, v, rfl⟩
      have hhere := hnone _ hapi u (w ++ v) (List.append_assoc ..)
      exact apiKeyPattern_eq_none_iff.mp hhere w (List.prefix_append w v)
    · rintro w ⟨u, v, rfl⟩
      have hhere := hnone _ hbearer u (w ++ v) (List.append_assoc ..)
      exact credentialPattern_eq_none_iff.mp hhere w (List.prefix_append w v)
    · rintro w ⟨u, v, rfl⟩
      have hhere := hnone _ htoken u (w ++ v) (List.append_assoc ..)
      exact credentialPattern_eq_none_iff.mp hhere w (List.prefix_append w v)
    · rintro u name value rest rfl hat
      rw [Option.or_none] at hat
      exact parameterPattern_eq_none_iff.mp (hnone _ hparameters u _ rfl) name value rest rfl hat

/-- **Scrubbing clears a text of secrets, once and for all.**  A scrubbed text shows stamped
parameters only, scrubbing it again changes nothing, and neither does scrubbing a text that shows no
secret. -/
theorem scrub_settles (text : String) :
    scrub (scrub text) = scrub text ∧
      ShowsOnly (· = "[REDACTED]".toList) (scrub text).toList ∧
      (ShowsOnly (fun _ => False) text.toList → scrub text = text) := by
  have hshows := showsOnly_scrub text
  refine ⟨scrub_eq_self_of_showsOnly hshows, hshows, ?_⟩
  intro hnone
  exact scrub_eq_self_of_showsOnly (hnone.mono fun _ => False.elim)

/-- A text that names the schemes and a parameter, but no secret, is left as it is.  A key is
replaced, and what is left then stays. -/
theorem scrub_settles_texts :
    (ShowsOnly (fun _ => False) "Token ring: monkey=7, Bearer of news".toList ∧
      scrub "Token ring: monkey=7, Bearer of news" = "Token ring: monkey=7, Bearer of news") ∧
      scrub "GET /weather?appid=abc123&units=metric" =
        "GET /weather?appid=[REDACTED]&units=metric" ∧
      scrub "GET /weather?appid=[REDACTED]&units=metric" =
        "GET /weather?appid=[REDACTED]&units=metric" := by
  have hpositions : ∀ pattern ∈ secretPatterns, ∀ n ∈ List.range 37,
      (pattern ("Token ring: monkey=7, Bearer of news".toList.take n).getLast?
        ("Token ring: monkey=7, Bearer of news".toList.drop n)).isNone = true := by
    decide +kernel
  have hshows : ShowsOnly (fun _ => False) "Token ring: monkey=7, Bearer of news".toList := by
    refine showsOnly_nothing_iff.mpr ?_
    intro pattern hpattern u v hcut
    have hlength : u.length ∈ List.range 37 := by
      have hle := (List.prefix_append u v).length_le
      rw [← hcut] at hle
      rw [List.mem_range]
      exact Nat.lt_succ_of_le hle
    have hhere := hpositions pattern hpattern u.length hlength
    rw [hcut, List.take_left, List.drop_left] at hhere
    exact Option.isNone_iff_eq_none.mp hhere
  have hreplaced : scrub "GET /weather?appid=abc123&units=metric" =
      "GET /weather?appid=[REDACTED]&units=metric" := by
    decide +kernel
  have hagain := (scrub_settles "GET /weather?appid=abc123&units=metric").1
  rw [hreplaced] at hagain
  exact ⟨⟨hshows, (scrub_settles _).2.2 hshows⟩, hreplaced, hagain⟩

end ToolAssistant.Text
