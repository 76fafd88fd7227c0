import Mathlib.Data.List.DropRight
import Mathlib.Data.List.TakeWhile
import Mathlib.Data.String.Basic
import ToolAssistant.Proofs.Http.Form

/-!
# Base addresses

The address of a resource is the base address of its service with the path of the resource behind
it.  If the base address is sound (`IsBase`), so is the address, and all that a query adds to it is
what stands behind the only question mark of the target (`queryOf_target_withForm`).

## Strategy

Reading an address takes its scheme off first, then the slashes, then the authority.  All of these
end before the slashes at the end of the base address, where the path is put (`read?_resource`).
That holds for the characters that are not passed over, so these are compared first: those of the
address are those of the base address up to its last slashes, and the path (`significant_resource`).
-/

namespace ToolAssistant.Http.Url

/-- A base address: it can be read, has neither a query nor a fragment, and ends in no blank or
control character, which is passed over at the end of an address but not inside of it. -/
structure IsBase (base : String) : Prop where
  readable : (read? base).isSome = true
  plain : ∀ c ∈ base.toList, endsPath c = false
  ends : ∀ c ∈ base.toList.getLast?, 0x20 < c.toNat

theorem plain_of_all {cs : List Char}
    (hall : cs.all (fun c => 0x20 < c.toNat && !endsPath c) = true) :
    ∀ c ∈ cs, 0x20 < c.toNat ∧ endsPath c = false := by
  intro c hc
  have hplain := List.all_eq_true.mp hall c hc
  rw [Bool.and_eq_true, decide_eq_true_eq, Bool.not_eq_true'] at hplain
  exact hplain

/-- The part of a target behind its first question mark. -/
def queryOf (target : String) : List Char :=
  (target.toList.dropWhile (· != '?')).drop 1

/-! ## Paths have no question mark -/

theorem question_notMem_escape (cs : List Char) : '?' ∉ escape escapedInPath cs := by
  intro hmem
  obtain ⟨c, -, hc⟩ := List.mem_flatMap.mp hmem
  split_ifs at hc with hescaped
  · rcases mem_escapeChar hc with habsurd | habsurd
    all_goals exact absurd habsurd (by decide)
  · obtain rfl := List.mem_singleton.mp hc
    exact hescaped (by simp [escapedInPath, isControlOrForeign])

theorem question_notMem_normalPath (cs : List Char) : '?' ∉ (normalPath cs).toList := by
  unfold normalPath
  extract_lets segments
  rw [String.toList_ofList]
  intro hmem
  obtain ⟨segment, -, hsegment⟩ := List.mem_flatMap.mp hmem
  rcases List.mem_cons.mp hsegment with habsurd | hescape
  · exact absurd habsurd (by decide)
  · exact question_notMem_escape segment hescape

/-- What stands behind the question mark of a target is the form that was added. -/
theorem queryOf_target_withForm {url : Url} (hquery : url.query = none)
    (hpath : '?' ∉ url.path.toList) (pairs : List (String × String)) :
    queryOf (url.withForm pairs).target = formPairs pairs := by
  have hbefore : ∀ c ∈ url.path.toList, (c != '?') = true := by
    intro c hc
    rw [bne_iff_ne]
    rintro rfl
    exact hpath hc
  have htarget :
      (url.withForm pairs).target.toList = url.path.toList ++ '?' :: formPairs pairs := by
    unfold target withForm
    simp [hquery]
  unfold queryOf
  rw [htarget, List.dropWhile_append_of_pos hbefore, List.dropWhile_cons_of_neg (by decide)]
  rfl

/-! ## Reading an address -/

/-- The characters that are heeded, if there is no blank at the end: none of those in front are, nor
tabs and line breaks anywhere. -/
def heeded (cs : List Char) : List Char :=
  (cs.dropWhile fun c => decide (c.toNat ≤ 0x20)).filter
    fun c => !(c == '\t' || c == '\n' || c == '\r')

theorem mem_of_mem_heeded {c : Char} {cs : List Char} (hc : c ∈ heeded cs) : c ∈ cs :=
  List.dropWhile_subset _ (List.mem_of_mem_filter hc)

theorem significant_eq_heeded {text : String}
    (hends : ∀ c ∈ text.toList.getLast?, 0x20 < c.toNat) :
    significant text = heeded text.toList := by
  unfold significant heeded
  extract_lets isEdge cs
  have hcs : cs = text.toList.dropWhile isEdge := by
    show (text.toList.dropWhile isEdge).rdropWhile isEdge = _
    rw [List.rdropWhile_eq_self_iff]
    intro hne hedge
    have htext : text.toList ≠ [] := by
      intro hempty
      exact hne (by rw [hempty]; rfl)
    have hcode := hends _ (List.getLast?_eq_some_getLast htext)
    rw [(List.dropWhile_suffix isEdge).getLast hne] at hedge
    exact absurd (of_decide_eq_true hedge) (Nat.not_le_of_lt hcode)
  rw [hcs]

theorem heeded_append (cs : List Char) {rest : List Char} (hrest : ∀ c ∈ rest, 0x20 < c.toNat) :
    heeded (cs ++ rest) = heeded cs ++ rest := by
  have hfront : rest.dropWhile (fun c => decide (c.toNat ≤ 0x20)) = rest := by
    cases rest with
    | nil => rfl
    | cons c rest =>
        have hcode := hrest c List.mem_cons_self
        apply List.dropWhile_cons_of_neg
        simpa using hcode
  have hbreaks : rest.filter (fun c => !(c == '\t' || c == '\n' || c == '\r')) = rest := by
    rw [List.filter_eq_self]
    intro c hc
    have hcode := hrest c hc
    simp only [Bool.not_eq_true', Bool.or_eq_false_iff, beq_eq_false_iff_ne]
    refine ⟨⟨?_, ?_⟩, ?_⟩
    all_goals
      rintro rfl
      exact absurd hcode (by decide)
  unfold heeded
  rw [List.dropWhile_append]
  split_ifs with hempty
  · rw [List.isEmpty_iff.mp hempty, hfront, hbreaks]
    rfl
  · rw [List.filter_append, hbreaks]

theorem afterScheme?_eq_some_iff {scheme : String} {cs rest : List Char} :
    afterScheme? scheme cs = some rest ↔
      ∃ start, cs = start ++ rest ∧ String.ofList (start.map Char.toLower) = scheme ++ ":" := by
  unfold afterScheme?
  extract_lets start
  constructor
  · intro hafter
    split_ifs at hafter with hstart
    obtain rfl := Option.some.inj hafter
    exact ⟨start, (List.prefix_iff_eq_append.mp (List.take_prefix _ cs)).symm, hstart⟩
  · rintro ⟨begun, rfl, hbegun⟩
    have hlength : begun.length = scheme.length + 1 := by
      have hlengths := congrArg String.length hbegun
      rwa [String.length_ofList, List.length_map, String.length_append] at hlengths
    have hstart : start = begun := by
      show (begun ++ rest).take (scheme.length + 1) = begun
      rw [← hlength, List.take_left]
    rw [hstart, if_pos hbegun, List.drop_left]

/-- The scheme of an address with its colon. -/
def IsScheme (start : List Char) : Prop :=
  String.ofList (start.map Char.toLower) = "http" ++ ":" ∨
    String.ofList (start.map Char.toLower) = "https" ++ ":"

theorem readScheme?_sound {cs rest : List Char} {secure : Bool}
    (hread : readScheme? cs = some (secure, rest)) :
    ∃ start, cs = start ++ rest ∧ IsScheme start := by
  unfold readScheme? at hread
  cases hhttp : afterScheme? "http" cs with
  | some found =>
      rw [hhttp] at hread
      obtain ⟨-, rfl⟩ := Prod.mk.inj (Option.some.inj hread)
      obtain ⟨start, hcs, hstart⟩ := afterScheme?_eq_some_iff.mp hhttp
      exact ⟨start, hcs, Or.inl hstart⟩
  | none =>
      cases hhttps : afterScheme? "https" cs with
      | some found =>
          rw [hhttp, hhttps] at hread
          obtain ⟨-, rfl⟩ := Prod.mk.inj (Option.some.inj hread)
          obtain ⟨start, hcs, hstart⟩ := afterScheme?_eq_some_iff.mp hhttps
          exact ⟨start, hcs, Or.inr hstart⟩
      | none =>
          rw [hhttp, hhttps] at hread
          cases hread

theorem readScheme?_complete {start : List Char} (hstart : IsScheme start) (rest : List Char) :
    ∃ secure, readScheme? (start ++ rest) = some (secure, rest) := by
  unfold readScheme?
  rcases hstart with hhttp | hhttps
  · rw [afterScheme?_eq_some_iff.mpr ⟨start, rfl, hhttp⟩]
    exact ⟨false, rfl⟩
  · have hhttp : afterScheme? "http" (start ++ rest) = none := by
      rw [Option.eq_none_iff_forall_ne_some]
      intro other hother
      obtain ⟨begun, hcs, hbegun⟩ := afterScheme?_eq_some_iff.mp hother
      have hfive := congrArg (fun cs => (cs.map Char.toLower).take 5) hcs
      have hhttpsChars := congrArg String.toList hhttps
      have hhttpChars := congrArg String.toList hbegun
      rw [String.toList_ofList] at hhttpsChars hhttpChars
      simp [hhttpsChars, hhttpChars] at hfive
    rw [hhttp, afterScheme?_eq_some_iff.mpr ⟨start, rfl, hhttps⟩]
    exact ⟨true, rfl⟩

/-- An address begins with a scheme, slashes and an authority. -/
theorem exists_parts {text : String} (hreadable : (read? text).isSome = true) :
    ∃ start slashes c behind, significant text = start ++ (slashes ++ c :: behind) ∧
      IsScheme start ∧ (∀ slash ∈ slashes, isSlash slash = true) ∧ isSlash c = false := by
  unfold read? at hreadable
  cases hscheme : readScheme? (significant text) with
  | none =>
      rw [hscheme] at hreadable
      cases hreadable
  | some found =>
      obtain ⟨secure, rest⟩ := found
      rw [hscheme] at hreadable
      obtain ⟨start, htext, hstart⟩ := readScheme?_sound hscheme
      have hrest : rest.dropWhile isSlash ≠ [] := by
        intro hempty
        simp [hempty] at hreadable
      obtain ⟨c, behind, hbehind⟩ := List.exists_cons_of_ne_nil hrest
      refine ⟨start, rest.takeWhile isSlash, c, behind, ?_, hstart, ?_, ?_⟩
      · rw [← hbehind, List.takeWhile_append_dropWhile, htext]
      · intro slash hslash
        exact List.mem_takeWhile_imp hslash
      · have hhead := List.head?_dropWhile_not isSlash rest
        rw [hbehind] at hhead
        simpa using hhead

/-- An address with these parts is read, and without a mark in it there is no query. -/
theorem read?_of_parts {text : String} {start slashes behind : List Char} {c : Char}
    (htext : significant text = start ++ (slashes ++ c :: behind)) (hstart : IsScheme start)
    (hslashes : ∀ slash ∈ slashes, isSlash slash = true) (hc : isSlash c = false)
    (hplain : ∀ d ∈ significant text, endsPath d = false) :
    ∃ url, read? text = some url ∧ url.query = none ∧ '?' ∉ url.path.toList := by
  obtain ⟨secure, hscheme⟩ := readScheme?_complete hstart (slashes ++ c :: behind)
  have hrest : (slashes ++ c :: behind).dropWhile isSlash = c :: behind := by
    rw [List.dropWhile_append_of_pos hslashes, List.dropWhile_cons_of_neg (by simp [hc])]
  have hplain : ∀ d ∈ c :: behind, endsPath d = false := by
    intro d hd
    apply hplain
    rw [htext]
    exact List.mem_append_right _ (List.mem_append_right _ hd)
  have hauthority :
      ((c :: behind).takeWhile fun c => !(isSlash c || endsPath c)).isEmpty = false := by
    rw [List.takeWhile_cons_of_pos (by simp [hc, hplain c List.mem_cons_self])]
    rfl
  have hpath (n : ℕ) : ((c :: behind).drop n).takeWhile (fun c => !endsPath c) =
      (c :: behind).drop n := by
    rw [List.takeWhile_eq_self_iff]
    intro d hd
    simp [hplain d (List.mem_of_mem_drop hd)]
  unfold read?
  rw [htext, hscheme]
  dsimp only [Option.bind_eq_bind, Option.bind_some]
  rw [hrest, if_neg (by rw [hauthority]; decide)]
  refine ⟨_, rfl, ?_, question_notMem_normalPath _⟩
  dsimp only
  rw [hpath, List.drop_length]
  rfl

/-! ## The address of a resource -/

/-- Where the characters of a text are cut in two, the part after a character that does not occur in
the second one stays with the first. -/
theorem exists_cut {front rest before behind : List Char} {c : Char}
    (hcut : front ++ rest = before ++ c :: behind) (hc : c ∉ rest) :
    ∃ kept, front = before ++ c :: kept := by
  rcases List.append_eq_append_iff.mp hcut with ⟨more, -, hrest⟩ | ⟨more, hfront, hmore⟩
  · exact absurd (hrest ▸ List.mem_append_right more List.mem_cons_self) hc
  · cases more with
    | nil =>
        rw [List.nil_append] at hmore
        exact absurd (hmore ▸ List.mem_cons_self) hc
    | cons d kept =>
        obtain ⟨rfl, -⟩ := List.cons.inj hmore
        exact ⟨kept, hfront⟩

variable {base resource : String}

/-- What is heeded of the address of a resource. -/
theorem significant_resource (base : String) (hne : resource ≠ "")
    (hresource : ∀ c ∈ resource.toList, 0x20 < c.toNat) :
    significant (trimBase base ++ resource) =
      heeded (base.toList.rdropWhile (· == '/')) ++ resource.toList := by
  have htext : (trimBase base ++ resource).toList =
      base.toList.rdropWhile (· == '/') ++ resource.toList := by
    rw [String.toList_append, trimBase, String.toList_ofList]
    rfl
  rw [significant_eq_heeded, htext, heeded_append _ hresource]
  intro c hc
  rw [htext, List.getLast?_append_of_ne_nil _ (by simpa using hne)] at hc
  exact hresource c (List.mem_of_getLast? hc)

/-- What is heeded of a base address. -/
theorem significant_base (hends : ∀ c ∈ base.toList.getLast?, 0x20 < c.toNat) :
    significant base =
      heeded (base.toList.rdropWhile (· == '/')) ++ base.toList.rtakeWhile (· == '/') := by
  have hslashes : ∀ c ∈ base.toList.rtakeWhile (· == '/'), 0x20 < c.toNat := by
    intro c hc
    obtain rfl : c = '/' := by simpa using List.mem_rtakeWhile_imp hc
    decide
  rw [significant_eq_heeded hends, ← heeded_append _ hslashes, List.rdropWhile_append_rtakeWhile]

/-- The address of a resource of a service can be read, and it has no query. -/
theorem read?_resource (hbase : IsBase base) (hne : resource ≠ "")
    (hresource : ∀ c ∈ resource.toList, 0x20 < c.toNat ∧ endsPath c = false) :
    ∃ url, read? (trimBase base ++ resource) = some url ∧ url.query = none ∧
      '?' ∉ url.path.toList := by
  obtain ⟨start, slashes, c, behind, hcut, hstart, hslashes, hc⟩ := exists_parts hbase.readable
  have hbehind : c ∉ base.toList.rtakeWhile (· == '/') := by
    intro hmem
    obtain rfl : c = '/' := by simpa using List.mem_rtakeWhile_imp hmem
    exact absurd hc (by decide)
  -- The authority begins with no slash, so the slashes that are trimmed come after it.
  rw [significant_base hbase.ends, ← List.append_assoc] at hcut
  obtain ⟨kept, hkept⟩ := exists_cut hcut hbehind
  have haddress := significant_resource base hne fun c hc => (hresource c hc).1
  have hparts : significant (trimBase base ++ resource) =
      start ++ (slashes ++ c :: (kept ++ resource.toList)) := by
    rw [haddress, hkept, List.append_assoc, List.append_assoc, List.cons_append]
  apply read?_of_parts hparts hstart hslashes hc
  intro d hd
  rw [haddress] at hd
  rcases List.mem_append.mp hd with hd | hd
  · apply hbase.plain
    exact (List.rdropWhile_prefix _ _).subset (mem_of_mem_heeded hd)
  · exact (hresource d hd).2

end ToolAssistant.Http.Url
