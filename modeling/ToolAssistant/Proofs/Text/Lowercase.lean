import Mathlib
import ToolAssistant.Proofs.Text.Blank
import ToolAssistant.Text.Lowercase
import ToolAssistant.Text.Numeric

/-!
# Words stay words in small letters

A character is unmarked if it is an ASCII letter or digit, or none of the ASCII characters.  Letters
and numbers of every script are unmarked, and an unmarked text is so in small letters
(`toLowercase_isUnmarked`), although the lower case of a letter need not be a letter: that of the
dotted capital I is an `i` and a combining dot.

Two texts that differ in the case of ASCII letters are the same in small letters
(`toLowercase_toLower`).  The other way round, a text that is ASCII in small letters was so before,
unless a Kelvin sign stood in it (`toLowercase_into_ascii`).

## Strategy

The table of capitals is checked run by run.  A run leads to characters beyond ASCII, only the
Kelvin sign leads to a `k`.
-/

namespace ToolAssistant.Text

/-- Is the character an ASCII letter or digit, or none of the ASCII characters? -/
def IsUnmarked (c : Char) : Prop :=
  c.isAlphanum = true ∨ 0x80 ≤ c.toNat

instance (c : Char) : Decidable (IsUnmarked c) :=
  inferInstanceAs (Decidable (_ ∨ _))

theorem isUnmarked_of_isAlphanumeric {c : Char} (hmem : isAlphanumeric c = true) :
    IsUnmarked c := by
  by_cases hascii : c.toNat < 0x80
  · have hnumber : inRanges otherNumberRanges c = false := by
      rw [← Bool.not_eq_true, inRanges_iff]
      rintro ⟨range, hrange, hlow, -⟩
      have hbeyond : ∀ range ∈ otherNumberRanges, 0x80 ≤ range.1 := by decide
      have := hbeyond range hrange
      omega
    simp only [isAlphanumeric, isAlphabetic, isNumeric, isDecimalDigit, hascii, if_true, hnumber,
      Bool.or_false] at hmem
    exact Or.inl hmem
  · exact Or.inr (Nat.le_of_not_lt hascii)

/-! ## The table of capitals -/

theorem le_toNat_ofNat {n : Nat} (hvalid : n.isValidChar) (hbeyond : 0x80 ≤ n) :
    0x80 ≤ (Char.ofNat n).toNat := by
  rwa [Char.toNat_ofNat, if_pos hvalid]

/-- The run leads from one character to another, or to characters beyond ASCII on one side of the
surrogates. -/
def CaseRun.LeadsToUnmarked (run : CaseRun) : Prop :=
  run.first = run.last ∧ IsUnmarked (Char.ofNat (run.first + run.shift).toNat) ∨
    0x80 ≤ run.first + run.shift ∧ run.last + run.shift < 0xD800 ∨
    0xDFFF < run.first + run.shift ∧ run.last + run.shift < 0x110000

instance (run : CaseRun) : Decidable run.LeadsToUnmarked :=
  inferInstanceAs (Decidable (_ ∨ _))

theorem lowercaseRuns_leadToUnmarked : ∀ run ∈ lowercaseRuns, run.LeadsToUnmarked := by
  decide +kernel

/-- No other run than that of the Kelvin sign leads to an ASCII letter. -/
theorem lowercaseRuns_leadTo_kelvin : ∀ run ∈ lowercaseRuns,
    (Char.ofNat (run.first + run.shift).toNat).isAlphanum = true →
      Char.ofNat (run.first + run.shift).toNat = 'k' := by
  decide +kernel

/-- Of the capitals in the table only the Kelvin sign has a small letter in ASCII. -/
theorem CaseRun.leads_of_covers {run : CaseRun} (hmem : run ∈ lowercaseRuns) {n : Nat}
    (hcovers : run.covers n = true) :
    Char.ofNat (n + run.shift).toNat = 'k' ∨ 0x80 ≤ (Char.ofNat (n + run.shift).toNat).toNat := by
  simp only [CaseRun.covers, Bool.and_eq_true, decide_eq_true_eq] at hcovers
  obtain ⟨⟨hfirst, hlast⟩, -⟩ := hcovers
  rcases lowercaseRuns_leadToUnmarked run hmem with ⟨hone, hunmarked⟩ | hbelow | habove
  · obtain rfl : run.first = n := by omega
    exact hunmarked.imp_left (lowercaseRuns_leadTo_kelvin run hmem)
  · exact Or.inr (le_toNat_ofNat (Or.inl (by omega)) (by omega))
  · exact Or.inr (le_toNat_ofNat (Or.inr (by omega)) (by omega))

/-! ## Small letters -/

theorem lowerChar_cases (c : Char) :
    lowerChar c = c.toLower ∨ lowerChar c = 'k' ∨ 0x80 ≤ (lowerChar c).toNat := by
  rw [lowerChar]
  split
  · exact Or.inl rfl
  · next hbeyond =>
      split
      · next run hrun =>
          have hcovers := List.find?_some hrun
          exact Or.inr (CaseRun.leads_of_covers (List.mem_of_find?_eq_some hrun) hcovers)
      · exact Or.inr (Or.inr (Nat.le_of_not_lt hbeyond))

theorem isUnmarked_toLower {c : Char} (hunmarked : IsUnmarked c) : IsUnmarked c.toLower := by
  by_cases hupper : c.isUpper = true
  · have hletter : c.toLower.isAlpha = true := by
      rw [Char.isAlpha_toLower_eq_isAlpha, Char.isAlpha, hupper, Bool.true_or]
    left
    rw [Char.isAlphanum, hletter, Bool.true_or]
  · rwa [Char.toLower_eq_of_not_isUpper hupper]

theorem lowerChar_isUnmarked {c : Char} (hunmarked : IsUnmarked c) : IsUnmarked (lowerChar c) := by
  rcases lowerChar_cases c with hlower | hkelvin | hbeyond
  · rw [hlower]
    exact isUnmarked_toLower hunmarked
  · rw [hkelvin]
    decide
  · exact Or.inr hbeyond

theorem lowerChars_isUnmarked {c : Char} (hunmarked : IsUnmarked c) :
    ∀ d ∈ lowerChars c, IsUnmarked d := by
  rw [lowerChars]
  split
  · exact List.forall_mem_cons.mpr ⟨by decide, List.forall_mem_singleton.mpr (by decide)⟩
  · exact List.forall_mem_singleton.mpr (lowerChar_isUnmarked hunmarked)

theorem lowerFrom_isUnmarked {before cs : List Char} (hunmarked : ∀ c ∈ cs, IsUnmarked c) :
    ∀ c ∈ lowerFrom before cs, IsUnmarked c := by
  induction cs generalizing before with
  | nil => exact fun c hmem => absurd hmem List.not_mem_nil
  | cons c rest ih =>
      obtain ⟨hc, hrest⟩ := List.forall_mem_cons.mp hunmarked
      rw [lowerFrom]
      refine List.forall_mem_append.mpr ⟨?_, ih hrest⟩
      split
      · refine List.forall_mem_singleton.mpr ?_
        split <;> decide
      · exact lowerChars_isUnmarked hc

/-- **An unmarked text is unmarked in small letters.** -/
theorem toLowercase_isUnmarked {s : String} (hunmarked : ∀ c ∈ s.toList, IsUnmarked c) :
    ∀ c ∈ (toLowercase s).toList, IsUnmarked c := by
  rw [toLowercase, String.toList_ofList]
  exact lowerFrom_isUnmarked hunmarked

/-! ## The case of ASCII letters -/

/-- What does not tell the ASCII letters from their capitals takes no notice of their case. -/
theorem apply_toLower {α : Type} {f : Char → α}
    (hletters : ∀ n < 26, f (Char.ofNat (0x61 + n)) = f (Char.ofNat (0x41 + n))) (c : Char) :
    f c.toLower = f c := by
  by_cases hupper : c.isUpper = true
  · have hbounds := toNat_of_isUpper hupper
    have hc : Char.ofNat (0x41 + (c.toNat - 0x41)) = c := by
      rw [Nat.add_sub_cancel' hbounds.1, Char.ofNat_toNat]
    have hlower : ∀ n < 26, (Char.ofNat (0x41 + n)).toLower = Char.ofNat (0x61 + n) := by decide
    rw [← hc, hlower _ (by omega)]
    exact hletters _ (by omega)
  · rw [Char.toLower_eq_of_not_isUpper hupper]

/-- Nor does a table that leaves out the ASCII letters. -/
theorem inRanges_toLower {ranges : List (Nat × Nat)}
    (hapart : ∀ range ∈ ranges,
      range.2 < 0x41 ∨ 0x5A < range.1 ∧ range.2 < 0x61 ∨ 0x7A < range.1) (c : Char) :
    inRanges ranges c.toLower = inRanges ranges c := by
  by_cases hupper : c.isUpper = true
  · have hbounds := toNat_of_isUpper hupper
    have hlower : c.toLower.toNat = c.toNat + 32 := by
      rw [Char.toLower_eq_of_isUpper hupper, Char.toNat_ofNat, if_pos (Or.inl (by omega))]
    rw [Bool.eq_iff_iff, inRanges_iff, inRanges_iff, hlower]
    refine exists_congr fun range => and_congr_right fun hmem => ?_
    have := hapart range hmem
    omega
  · rw [Char.toLower_eq_of_not_isUpper hupper]

theorem isBlank_toLower (c : Char) : isBlank c.toLower = isBlank c :=
  inRanges_toLower (by decide) c

theorem isAlphanumeric_toLower (c : Char) : isAlphanumeric c.toLower = isAlphanumeric c :=
  apply_toLower (by decide +kernel) c

theorem meetsCased_map_toLower (cs : List Char) :
    meetsCased (cs.map Char.toLower) = meetsCased cs := by
  have hpassed : inRanges caseIgnorableRanges ∘ Char.toLower = inRanges caseIgnorableRanges :=
    funext (inRanges_toLower (by decide +kernel))
  have hcased (c : Char) : inRanges casedRanges c.toLower = inRanges casedRanges c :=
    apply_toLower (by decide +kernel) c
  rw [meetsCased, List.dropWhile_map, hpassed, meetsCased]
  cases cs.dropWhile (inRanges caseIgnorableRanges ·) with
  | nil => rfl
  | cons c rest => exact hcased c

theorem lowerFrom_map_toLower (before cs : List Char) :
    lowerFrom (before.map Char.toLower) (cs.map Char.toLower) = lowerFrom before cs := by
  induction cs generalizing before with
  | nil => rfl
  | cons c rest ih =>
      have hchars : lowerChars c.toLower = lowerChars c := apply_toLower (by decide +kernel) c
      have hsigma : c.toLower = 'Σ' ↔ c = 'Σ' :=
        decide_eq_decide.mp (apply_toLower (f := fun c => decide (c = 'Σ')) (by decide) c)
      have hlater := ih (c :: before)
      rw [List.map_cons] at hlater
      rw [List.map_cons, lowerFrom, lowerFrom, hlater, hchars, meetsCased_map_toLower,
        meetsCased_map_toLower]
      simp only [hsigma]

theorem toList_toLowercase (s : String) : (toLowercase s).toList = lowerFrom [] s.toList := by
  rw [toLowercase, String.toList_ofList]

theorem toList_toLower (s : String) : s.toLower.toList = s.toList.map Char.toLower :=
  String.toList_map

theorem toLower_ofList (cs : List Char) :
    (String.ofList cs).toLower = String.ofList (cs.map Char.toLower) := by
  rw [← String.toList_inj, toList_toLower, String.toList_ofList, String.toList_ofList]

/-- **The case of ASCII letters is lost in small letters.** -/
theorem toLowercase_toLower (s : String) : toLowercase s.toLower = toLowercase s := by
  rw [← String.toList_inj, toList_toLowercase, toList_toLowercase, toList_toLower]
  exact lowerFrom_map_toLower [] s.toList

/-! ## Small letters in ASCII -/

theorem lowerFrom_ascii {before cs : List Char} (hascii : ∀ c ∈ cs, c.toNat < 0x80) :
    lowerFrom before cs = cs.map Char.toLower := by
  induction cs generalizing before with
  | nil => rfl
  | cons c rest ih =>
      obtain ⟨hc, hrest⟩ := List.forall_mem_cons.mp hascii
      have hsigma : c ≠ 'Σ' := by
        rintro rfl
        exact absurd hc (by decide)
      have hdotted : c ≠ '\u0130' := by
        rintro rfl
        exact absurd hc (by decide)
      rw [lowerFrom, if_neg hsigma, lowerChars, if_neg hdotted, lowerChar, if_pos hc, ih hrest,
        List.map_cons, List.singleton_append]

/-- Nothing but ASCII leads to small letters in ASCII, the Kelvin sign apart. -/
theorem lowerFrom_into_ascii {before cs : List Char}
    (hascii : ∀ d ∈ lowerFrom before cs, d.toNat < 0x80 ∧ d ≠ 'k') :
    lowerFrom before cs = cs.map Char.toLower := by
  induction cs generalizing before with
  | nil => rfl
  | cons c rest ih =>
      rw [lowerFrom] at hascii ⊢
      obtain ⟨hhere, hrest⟩ := List.forall_mem_append.mp hascii
      rw [ih hrest, List.map_cons, ← List.singleton_append (x := c.toLower)]
      congr 1
      by_cases hsigma : c = 'Σ'
      · rw [if_pos hsigma] at hhere
        have hgreek := (hhere _ (List.mem_singleton_self _)).1
        split at hgreek <;> exact absurd hgreek (by decide)
      · rw [if_neg hsigma, lowerChars] at hhere ⊢
        by_cases hdotted : c = '\u0130'
        · rw [if_pos hdotted] at hhere
          have hdot := (hhere '\u0307' (List.mem_cons_of_mem _ (List.mem_singleton_self _))).1
          exact absurd hdot (by decide)
        · rw [if_neg hdotted] at hhere ⊢
          obtain ⟨hbelow, hkelvin⟩ := hhere _ (List.mem_singleton_self _)
          rcases lowerChar_cases c with hlower | hk | hbeyond
          · rw [hlower]
          · exact absurd hk hkelvin
          · exact absurd hbelow (Nat.not_lt.mpr hbeyond)

/-- Of an ASCII text only the case of its letters changes. -/
theorem toLowercase_ascii {s : String} (hascii : ∀ c ∈ s.toList, c.toNat < 0x80) :
    toLowercase s = s.toLower := by
  rw [← String.toList_inj, toList_toLowercase, toList_toLower, lowerFrom_ascii hascii]

/-- So it is with a text that is ASCII when in small letters, unless it holds a Kelvin sign. -/
theorem toLowercase_into_ascii {s : String}
    (hascii : ∀ d ∈ (toLowercase s).toList, d.toNat < 0x80 ∧ d ≠ 'k') :
    toLowercase s = s.toLower := by
  rw [toList_toLowercase] at hascii
  rw [← String.toList_inj, toList_toLowercase, toList_toLower, lowerFrom_into_ascii hascii]

end ToolAssistant.Text
