import ToolAssistant.Text.Blank
import Mathlib.Data.List.DropRight

/-!
# Runs, lines and the ends of texts

`IsRuns` says what the maximal runs of a class are without saying how they are found; that `runs`
finds them and nothing else is `runs_eq_iff`.  So texts are cut into runs by arguments on `IsRuns`:
a text that is cut where no run goes on has the runs of both parts (`IsRuns.append`), and so it is
with words.

Stripping takes characters of a class from the ends of a text until there is another one
(`exists_strip`), so what was put there is gone again (`stripWhile_append`).  Trimming the end of a
text only takes from it, and stops at the last character that is not white space (`trimEnd_append`).
-/

namespace ToolAssistant.Text

/-! ## Digits and letters -/

theorem toNat_of_isDigit {c : Char} (hdigit : c.isDigit = true) :
    48 ≤ c.toNat ∧ c.toNat ≤ 57 := by
  simp only [Char.isDigit, Bool.and_eq_true, decide_eq_true_eq, ge_iff_le,
    UInt32.le_iff_toNat_le] at hdigit
  exact hdigit

theorem toNat_of_isUpper {c : Char} (hupper : c.isUpper = true) :
    0x41 ≤ c.toNat ∧ c.toNat ≤ 0x5A := by
  obtain ⟨hlow, hhigh⟩ := of_decide_eq_true hupper
  exact ⟨UInt32.le_iff_toNat_le.mp hlow, UInt32.le_iff_toNat_le.mp hhigh⟩

theorem toNat_of_isLower {c : Char} (hlower : c.isLower = true) :
    0x61 ≤ c.toNat ∧ c.toNat ≤ 0x7A := by
  obtain ⟨hlow, hhigh⟩ := (Bool.and_eq_true _ _).mp hlower
  exact ⟨UInt32.le_iff_toNat_le.mp (of_decide_eq_true hlow),
    UInt32.le_iff_toNat_le.mp (of_decide_eq_true hhigh)⟩

theorem not_isBlank_of_isDigit {c : Char} (hdigit : c.isDigit = true) : isBlank c = false := by
  have hapart : ∀ range ∈ blankRanges, range.2 < 48 ∨ 57 < range.1 := by decide
  have hbetween := toNat_of_isDigit hdigit
  rw [← Bool.not_eq_true, isBlank, inRanges_iff]
  rintro ⟨range, hrange, hlow, hhigh⟩
  have := hapart range hrange
  omega

variable {p : Char → Bool}

/-! ## Runs -/

/-- The maximal runs of a class in a text: each ends where the text or the class does, and what
stands between them is not in the class. -/
inductive IsRuns (p : Char → Bool) : List Char → List (List Char) → Prop
  | nil : IsRuns p [] []
  | skip {c : Char} {rest : List Char} {found : List (List Char)} :
      p c = false → IsRuns p rest found → IsRuns p (c :: rest) found
  | run {run rest : List Char} {found : List (List Char)} :
      run ≠ [] → (∀ c ∈ run, p c = true) → (∀ next ∈ rest.head?, p next = false) →
        IsRuns p rest found → IsRuns p (run ++ rest) (run :: found)

theorem runs_cons_of_not {c : Char} (hskip : p c = false) (rest : List Char) :
    runs p (c :: rest) = runs p rest := by
  simp only [runs, hskip, Bool.false_eq_true, if_false]

theorem runs_cons_of_ends {c : Char} {rest : List Char} (hc : p c = true)
    (hrest : ∀ next ∈ rest.head?, p next = false) : runs p (c :: rest) = [c] :: runs p rest := by
  rw [runs.eq_def]
  dsimp only
  rw [if_pos hc]
  cases rest with
  | nil => rfl
  | cons next rest =>
      have hnext : p next = false := hrest next rfl
      cases hfound : runs p (next :: rest) with
      | nil => rfl
      | cons run more => simp only [hnext, Bool.false_eq_true, if_false]

theorem runs_cons_of_goesOn {c d : Char} {rest run : List Char} {more : List (List Char)}
    (hc : p c = true) (hd : p d = true) (hfound : runs p (d :: rest) = run :: more) :
    runs p (c :: d :: rest) = (c :: run) :: more := by
  rw [runs.eq_def]
  simp only [hc, hd, hfound, if_true]

/-- A run that is followed by nothing of its class is found as a whole. -/
theorem runs_append {run rest : List Char} (hne : run ≠ []) (hrun : ∀ c ∈ run, p c = true)
    (hrest : ∀ next ∈ rest.head?, p next = false) :
    runs p (run ++ rest) = run :: runs p rest := by
  induction run with
  | nil => exact absurd rfl hne
  | cons c run ih =>
      have hc : p c = true := hrun c List.mem_cons_self
      cases run with
      | nil => exact runs_cons_of_ends hc hrest
      | cons d run =>
          have hd : p d = true := hrun d (List.mem_cons_of_mem c List.mem_cons_self)
          exact runs_cons_of_goesOn hc hd
            (ih (List.cons_ne_nil d run) fun next hnext => hrun next (List.mem_cons_of_mem c hnext))

theorem ends_dropWhile (p : Char → Bool) (cs : List Char) :
    ∀ c ∈ (cs.dropWhile p).head?, p c = false := by
  intro c hc
  have hstops := List.head?_dropWhile_not p cs
  rwa [hc] at hstops

theorem exists_isRuns (p : Char → Bool) (cs : List Char) : ∃ found, IsRuns p cs found := by
  induction hlength : cs.length using Nat.strong_induction_on generalizing cs with
  | _ length ih =>
      subst hlength
      cases cs with
      | nil => exact ⟨[], .nil⟩
      | cons c rest =>
          cases hc : p c with
          | false =>
              obtain ⟨found, hfound⟩ := ih rest.length (Nat.lt_succ_self _) rest rfl
              exact ⟨found, .skip hc hfound⟩
          | true =>
              -- The run that starts here is cut off, and what is left is shorter.
              have hshorter : (rest.dropWhile p).length < (c :: rest).length :=
                Nat.lt_succ_of_le (List.dropWhile_suffix p).length_le
              obtain ⟨found, hfound⟩ := ih _ hshorter (rest.dropWhile p) rfl
              have hrun : ∀ d ∈ c :: rest.takeWhile p, p d = true := by
                rintro d hd
                rcases List.mem_cons.mp hd with rfl | hd
                · exact hc
                · exact List.mem_takeWhile_imp hd
              have hcut : c :: rest = (c :: rest.takeWhile p) ++ rest.dropWhile p := by
                rw [List.cons_append, List.takeWhile_append_dropWhile]
              exact ⟨(c :: rest.takeWhile p) :: found,
                hcut ▸ .run (List.cons_ne_nil _ _) hrun (ends_dropWhile p rest) hfound⟩

/-- **Runs are what `runs` finds.** -/
theorem runs_eq_iff {cs : List Char} {found : List (List Char)} :
    runs p cs = found ↔ IsRuns p cs found := by
  have hfinds {found : List (List Char)} (hruns : IsRuns p cs found) : runs p cs = found := by
    induction hruns with
    | nil => rfl
    | skip hskip _ ih => rw [runs_cons_of_not hskip, ih]
    | run hne hrun hrest _ ih => rw [runs_append hne hrun hrest, ih]
  -- Every text has runs, so what `runs` finds are those.
  refine ⟨fun hfound => ?_, hfinds⟩
  obtain ⟨found', hruns⟩ := exists_isRuns p cs
  rwa [← hfound, hfinds hruns]

theorem isRuns_runs (p : Char → Bool) (cs : List Char) : IsRuns p cs (runs p cs) :=
  runs_eq_iff.mp rfl

/-- A run is not empty, and all of it is in the class. -/
theorem IsRuns.mem {cs run : List Char} {found : List (List Char)} (hruns : IsRuns p cs found)
    (hmem : run ∈ found) : run ≠ [] ∧ ∀ c ∈ run, p c = true := by
  induction hruns with
  | nil => cases hmem
  | skip _ _ ih => exact ih hmem
  | run hne hrun _ _ ih =>
      rcases List.mem_cons.mp hmem with rfl | hmem
      · exact ⟨hne, hrun⟩
      · exact ih hmem

/-- The runs of a text that is cut where no run goes on are those of its parts. -/
theorem IsRuns.append {cs ds : List Char} {found more : List (List Char)}
    (hruns : IsRuns p cs found) (hmore : IsRuns p ds more)
    (hcut : (∀ last ∈ cs.getLast?, p last = false) ∨ ∀ next ∈ ds.head?, p next = false) :
    IsRuns p (cs ++ ds) (found ++ more) := by
  induction hruns with
  | nil => exact hmore
  | @skip c rest found hskip _ ih =>
      refine .skip hskip (ih (hcut.imp_left fun hlast last hmem => hlast last ?_))
      rw [List.getLast?_cons, Option.mem_def.mp hmem]
      rfl
  | @run run rest found hne hrun hrest _ ih =>
      rw [List.append_assoc, List.cons_append]
      cases rest with
      | nil =>
          -- The run ends the first part, so it is the second part that must not go on with it.
          have hends := hcut.resolve_left fun hlast => by
            rw [List.append_nil] at hlast
            have hin := hrun _ (List.getLast_mem hne)
            rw [hlast _ (List.getLast?_eq_some_getLast hne)] at hin
            exact Bool.false_ne_true hin
          exact .run hne hrun hends (ih (Or.inr hends))
      | cons c rest =>
          refine .run hne hrun hrest (ih (hcut.imp_left fun hlast last hmem => hlast last ?_))
          rw [List.getLast?_append, Option.mem_def.mp hmem]
          rfl

/-- A map that keeps the class of each character keeps the runs. -/
theorem IsRuns.map {f : Char → Char} (hclass : ∀ c, p (f c) = p c) {cs : List Char}
    {found : List (List Char)} (hruns : IsRuns p cs found) :
    IsRuns p (cs.map f) (found.map (List.map f)) := by
  induction hruns with
  | nil => exact .nil
  | skip hskip _ ih => exact .skip ((hclass _).trans hskip) ih
  | @run run rest found hne hrun hrest _ ih =>
      rw [List.map_append, List.map_cons]
      refine .run (by simpa using hne) (List.forall_mem_map.mpr fun c hc => ?_) ?_ ih
      · rw [hclass]
        exact hrun c hc
      · rw [List.head?_map]
        rintro next hnext
        obtain ⟨c, hc, rfl⟩ := Option.map_eq_some_iff.mp hnext
        rw [hclass]
        exact hrest c hc

/-- A text that is all of one class is one run. -/
theorem IsRuns.single {run : List Char} (hne : run ≠ []) (hrun : ∀ c ∈ run, p c = true) :
    IsRuns p run [run] := by
  have hruns : IsRuns p (run ++ []) [run] := .run hne hrun (fun next hnext => nomatch hnext) .nil
  rwa [List.append_nil] at hruns

/-! ## Words -/

theorem words_of_isRuns {text : String} {found : List (List Char)}
    (hruns : IsRuns (fun c => !isBlank c) text.toList found) :
    words text = found.map String.ofList := by
  rw [words, runs_eq_iff.mpr hruns]

theorem words_append_blank (first second : String) {blank : Char} (hblank : isBlank blank = true) :
    words (first ++ String.singleton blank ++ second) = words first ++ words second := by
  have hskip : (!isBlank blank) = false := by rw [hblank, Bool.not_true]
  have hruns := (isRuns_runs (fun c => !isBlank c) first.toList).append
    (.skip hskip (isRuns_runs _ second.toList)) (Or.inr fun next hnext => by
      obtain rfl : blank = next := Option.some.inj hnext
      exact hskip)
  have htext : (first ++ String.singleton blank ++ second).toList =
      first.toList ++ blank :: second.toList := by
    rw [String.toList_append, String.toList_append, String.toList_singleton, List.append_assoc,
      List.singleton_append]
  rw [words_of_isRuns (htext ▸ hruns), List.map_append]
  rfl

/-- A word between blanks is found among the words of what stands on its sides. -/
theorem words_around {front word back : List Char} (hne : word ≠ [])
    (hsolid : ∀ c ∈ word, isBlank c = false)
    (hfront : ∀ last ∈ front.getLast?, isBlank last = true)
    (hback : ∀ next ∈ back.head?, isBlank next = true) :
    words (String.ofList (front ++ word ++ back)) =
      words (String.ofList front) ++ String.ofList word :: words (String.ofList back) := by
  have hword := IsRuns.single (p := fun c => !isBlank c) hne fun c hc => by
    rw [hsolid c hc, Bool.not_false]
  have hbefore := (isRuns_runs (fun c => !isBlank c) front).append hword
    (Or.inl fun last hlast => by rw [hfront last hlast, Bool.not_true])
  have hruns := hbefore.append (isRuns_runs (fun c => !isBlank c) back)
    (Or.inr fun next hnext => by rw [hback next hnext, Bool.not_true])
  rw [← String.toList_ofList (l := front ++ word ++ back)] at hruns
  rw [words_of_isRuns hruns, words, words, String.toList_ofList, String.toList_ofList]
  simp

/-! ## The ends of texts -/

/-- Stripping takes characters of the class from both ends, and nothing else. -/
theorem exists_strip (p : Char → Bool) (cs : List Char) :
    ∃ before after, cs = before ++ stripWhile p cs ++ after ∧
      ∀ c ∈ before ++ after, p c = true := by
  refine ⟨cs.takeWhile p, (cs.dropWhile p).rtakeWhile p, ?_, ?_⟩
  · have hend : stripWhile p cs ++ (cs.dropWhile p).rtakeWhile p = cs.dropWhile p :=
      List.rdropWhile_append_rtakeWhile
    rw [List.append_assoc, hend, List.takeWhile_append_dropWhile]
  · refine List.forall_mem_append.mpr ⟨fun c hc => List.mem_takeWhile_imp hc, fun c hc => ?_⟩
    exact List.mem_rtakeWhile_imp hc

/-- What is put at the end of a text is dropped with what the text ends in. -/
theorem dropEndWhile_append {after : List Char} (hafter : ∀ c ∈ after, p c = true)
    (cs : List Char) : dropEndWhile p (cs ++ after) = dropEndWhile p cs := by
  rw [dropEndWhile, List.reverse_append,
    List.dropWhile_append_of_pos fun c hc => hafter c (List.mem_reverse.mp hc), dropEndWhile]

theorem dropEndWhile_eq_self {cs : List Char} (hlast : ∀ c ∈ cs.getLast?, p c = false) :
    dropEndWhile p cs = cs := by
  refine List.rdropWhile_eq_self_iff.mpr fun hne => ?_
  rw [hlast _ (List.getLast?_eq_some_getLast hne)]
  exact Bool.false_ne_true

/-- What is put at the ends of a text is stripped from it again. -/
theorem stripWhile_append {before after : List Char} (hends : ∀ c ∈ before ++ after, p c = true)
    (cs : List Char) : stripWhile p (before ++ cs ++ after) = stripWhile p cs := by
  obtain ⟨hbefore, hafter⟩ := List.forall_mem_append.mp hends
  rw [stripWhile, List.append_assoc, List.dropWhile_append_of_pos hbefore, List.dropWhile_append,
    stripWhile]
  split
  · next hall => rw [List.dropWhile_eq_nil_iff.mpr hafter, List.isEmpty_iff.mp hall]
  · exact dropEndWhile_append hafter _

theorem stripWhile_eq_self {cs : List Char} (hcs : ∀ c ∈ cs, p c = false) :
    stripWhile p cs = cs := by
  have hstays : cs.dropWhile p = cs := by
    cases cs with
    | nil => rfl
    | cons c rest => exact List.dropWhile_cons_of_neg (by simp [hcs c List.mem_cons_self])
  rw [stripWhile, hstays]
  exact dropEndWhile_eq_self fun c hc => hcs c (List.mem_of_getLast? hc)

theorem stripWhile_map {f : Char → Char} (hclass : ∀ c, p (f c) = p c) (cs : List Char) :
    stripWhile p (cs.map f) = (stripWhile p cs).map f := by
  have hsame : p ∘ f = p := funext hclass
  rw [stripWhile, dropEndWhile, List.dropWhile_map, ← List.map_reverse, List.dropWhile_map,
    ← List.map_reverse, hsame, stripWhile, dropEndWhile]

theorem trimEnd_begins (s : String) : (trimEnd s).toList <+: s.toList := by
  rw [trimEnd, String.toList_ofList]
  exact List.rdropWhile_prefix isBlank s.toList

/-- Trimming takes the white space after the last character that is none, and no more. -/
theorem trimEnd_append {s blank : String} (hlast : ∀ c ∈ s.toList.getLast?, isBlank c = false)
    (hblank : ∀ c ∈ blank.toList, isBlank c = true) : trimEnd (s ++ blank) = s := by
  rw [trimEnd, String.toList_append, dropEndWhile_append hblank, dropEndWhile_eq_self hlast,
    String.ofList_toList]

/-- A text that ends in a line break is trimmed of just that. -/
theorem trimEnd_newline (before : String) {after : String} {last : Char}
    (hends : after.toList.getLast? = some last) (hlast : isBlank last = false) :
    trimEnd (before ++ after ++ "\n") = before ++ after := by
  refine trimEnd_append (fun c hc => ?_) fun c hc => ?_
  · rw [String.toList_append, List.getLast?_append, hends] at hc
    obtain rfl : last = c := Option.some.inj hc
    exact hlast
  · obtain rfl : c = '\n' := List.mem_singleton.mp hc
    decide

/-- Trimming takes from the ends of a text only. -/
theorem trim_within (s : String) : (trim s).toList <:+: s.toList := by
  rw [trim, String.toList_ofList]
  have hbegin : stripWhile isBlank s.toList <+: s.toList.dropWhile isBlank :=
    List.rdropWhile_prefix isBlank _
  exact hbegin.isInfix.trans (List.dropWhile_suffix isBlank).isInfix

/-- Only of white space nothing is left. -/
theorem trim_eq_empty_iff {s : String} : trim s = "" ↔ isBlankText s = true := by
  have hcut := List.takeWhile_append_dropWhile (p := isBlank) (l := s.toList)
  rw [trim, String.ofList_eq_empty_iff, isBlankText, List.all_eq_true]
  refine List.rdropWhile_eq_nil_iff.trans ⟨fun hrest c hc => ?_, fun hall c hc => ?_⟩
  · rw [← hcut, List.mem_append] at hc
    rcases hc with hbefore | hafter
    · exact List.mem_takeWhile_imp hbefore
    · exact hrest c hafter
  · exact hall c ((List.dropWhile_suffix isBlank).subset hc)

theorem isEmpty_trim (s : String) : (trim s).isEmpty = isBlankText s := by
  rw [Bool.eq_iff_iff, String.isEmpty_iff, trim_eq_empty_iff]

/-! ## Lines -/

/-- The lines of a text. -/
def lines (s : String) : List String :=
  (s.toList.splitOn '\n').map String.ofList

theorem lines_append_newline (first second : String) :
    lines (first ++ "\n" ++ second) = lines first ++ lines second := by
  have hbreak : ("\n" : String).toList = ['\n'] := rfl
  rw [lines, String.toList_append, String.toList_append, hbreak, List.append_assoc,
    List.singleton_append, List.splitOn_append_cons_self, List.map_append, lines, lines]

theorem lines_eq_singleton {line : String} (hline : '\n' ∉ line.toList) : lines line = [line] := by
  rw [lines, List.splitOn_eq_singleton hline, List.map_singleton, String.ofList_toList]

/-- Texts of one line each, one after another, are the lines that they make. -/
theorem lines_join {inner : List String} (hinner : ∀ line ∈ inner, '\n' ∉ line.toList)
    (rest : String) :
    lines (String.join (inner.map (· ++ "\n")) ++ rest) = inner ++ lines rest := by
  induction inner with
  | nil => rw [List.map_nil, String.join_nil, String.empty_append, List.nil_append]
  | cons line inner ih =>
      have hline := lines_eq_singleton (hinner line List.mem_cons_self)
      have hlater := ih fun next hnext => hinner next (List.mem_cons_of_mem line hnext)
      rw [List.map_cons, String.join_cons, String.append_assoc, lines_append_newline, hline, hlater,
        List.cons_append, List.nil_append, List.cons_append]

end ToolAssistant.Text
