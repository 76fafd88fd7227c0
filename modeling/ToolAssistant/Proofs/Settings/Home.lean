import Mathlib.Data.String.Basic
import ToolAssistant.Settings.Validation

/-!
# The home directory in settings

A tilde in front of a path stands for the home directory.  What follows it is found below that
directory, name by name (`names_joinText`), with one exception: a path that goes on with a second
slash is taken for one from the root, and the home directory is dropped.

## Strategy

Paths are compared by the names on the way and by whether they start at the root.  Settings that
have been processed hold no tilde any more that would be expanded, so they stay as they are.
-/

namespace ToolAssistant

namespace FilePath

/-! ## Joined paths -/

theorem parts_ofText_append (directory path : String) :
    (ofText (directory ++ "/" ++ path)).parts =
      (ofText directory).parts ++ (ofText path).parts := by
  have hcut : (directory ++ "/" ++ path).toList = directory.toList ++ '/' :: path.toList := by
    simp
  unfold ofText
  rw [hcut, List.splitOn_append_cons_self, List.map_append]

theorem names_ofText_append (directory path : String) :
    (ofText (directory ++ "/" ++ path)).names =
      (ofText directory).names ++ (ofText path).names := by
  unfold names
  rw [parts_ofText_append, List.filter_append]

@[simp] theorem names_ofText_empty : (ofText "").names = [] := by
  decide

/-- A path starts at the root just if it is written with a slash in front. -/
theorem absolute_ofText (text : String) :
    (ofText text).absolute = (text.toList.head? == some '/') := by
  unfold absolute ofText
  cases htext : text.toList with
  | nil => rfl
  | cons c rest =>
      obtain ⟨part, more, hmore⟩ := List.exists_cons_of_ne_nil (List.splitOn_ne_nil '/' rest)
      rw [List.splitOn_cons_eq_if_modifyHead]
      by_cases hslash : c = '/'
      · simp [hslash, hmore]
      · have hnamed : (String.ofList (c :: part) == "") = false := by
          rw [beq_eq_false_iff_ne]
          intro hempty
          have hchars := congrArg String.toList hempty
          simp at hchars
        rw [if_neg (by simp [hslash]), hmore]
        show (String.ofList (c :: part) == "" && _) = (some c == some '/')
        rw [hnamed, Bool.false_and, eq_comm, beq_eq_false_iff_ne]
        simpa using hslash

variable {directory path : String}

/-- The names on the way into a directory and on from there. -/
theorem names_joinText (hrelative : path.startsWith "/" = false) :
    (ofText (joinText directory path)).names =
      (ofText directory).names ++ (ofText path).names := by
  unfold joinText
  rw [if_neg (by simp [hrelative])]
  split_ifs with hends
  · rcases Bool.or_eq_true_iff.mp hends with hempty | hslash
    · rw [String.isEmpty_iff.mp hempty, String.empty_append, names_ofText_empty, List.nil_append]
    · rw [String.endsWith_eq_endsWith_toSlice, String.Slice.endsWith_string_iff] at hslash
      obtain ⟨above, habove⟩ := hslash
      have hdirectory : directory = String.ofList above ++ "/" := by
        rw [← String.toList_inj, String.toList_append, String.toList_ofList, habove]
        simp
      have hnames := names_ofText_append (String.ofList above) ""
      rw [String.append_empty, names_ofText_empty, List.append_nil] at hnames
      rw [hdirectory, hnames, names_ofText_append]
  · exact names_ofText_append directory path

theorem absolute_joinText (hrelative : path.startsWith "/" = false) :
    (ofText (joinText directory path)).absolute = (ofText directory).absolute := by
  unfold joinText
  rw [if_neg (by simp [hrelative])]
  rw [absolute_ofText, absolute_ofText]
  cases hdirectory : directory.toList with
  | nil =>
      obtain rfl := String.toList_eq_nil_iff.mp hdirectory
      rw [if_pos (by simp), String.empty_append]
      rw [Bool.eq_false_iff, Ne, String.startsWith_string_iff] at hrelative
      cases hpath : path.toList with
      | nil => rfl
      | cons c rest =>
          have hc : c ≠ '/' := by
            rintro rfl
            exact hrelative (hpath ▸ ⟨rest, rfl⟩)
          simpa using hc
  | cons c rest =>
      split_ifs
      · rw [String.toList_append, hdirectory]
        rfl
      · rw [String.append_assoc, String.toList_append, hdirectory]
        rfl

/-! ## The tilde -/

/-- Does a path lead to a directory or to something below it, by names and without a step up? -/
def IsInside (directory path : FilePath) : Prop :=
  path.absolute = directory.absolute ∧
    ∃ below, path.names = directory.names ++ below ∧ ".." ∉ below

/-- Is a path written with a tilde that stands for the home directory? -/
def HasTilde (path : String) : Prop :=
  path = "~" ∨ ∃ rest, path = "~/" ++ rest

/-- What a path becomes when the home directory is put in. -/
structure Expands (home path expanded : String) : Prop where
  /-- A tilde alone is the home directory. -/
  tilde : path = "~" → expanded = home
  /-- What follows a tilde and a slash is found below the home directory. -/
  below : ∀ rest, path = "~/" ++ rest → rest.startsWith "/" = false →
    (ofText expanded).absolute = (ofText home).absolute ∧
      (ofText expanded).names = (ofText home).names ++ (ofText rest).names
  /-- If it begins with another slash, it is taken for a path from the root. -/
  rooted : ∀ rest, path = "~/" ++ rest → rest.startsWith "/" = true → expanded = rest
  /-- Without a step up this is inside the home directory, but for a path from the root, which is
  there only if it names the home directory itself. -/
  inside : ∀ rest, path = "~/" ++ rest → ".." ∉ (ofText rest).names →
    (IsInside (ofText home) (ofText expanded) ↔
      (rest.startsWith "/" = true → IsInside (ofText home) (ofText rest)))
  /-- Any other path is left alone. -/
  kept : ¬HasTilde path → expanded = path

variable {home path expanded : String}

theorem hasTilde_iff :
    HasTilde path ↔ path.toList = ['~'] ∨ ∃ rest, path.toList = '~' :: '/' :: rest := by
  unfold HasTilde
  apply or_congr
  · rw [← String.toList_inj]
    rfl
  · constructor
    · rintro ⟨rest, rfl⟩
      exact ⟨rest.toList, by simp⟩
    · rintro ⟨rest, hrest⟩
      refine ⟨String.ofList rest, ?_⟩
      rw [← String.toList_inj, hrest]
      simp

theorem expandHome_tilde (home : String) : expandHome home "~" = home := by
  simp [expandHome]

theorem expandHome_below (home rest : String) :
    expandHome home ("~/" ++ rest) = joinText home rest := by
  simp [expandHome]

theorem expandHome_kept (hpath : ¬HasTilde path) : expandHome home path = path := by
  rw [hasTilde_iff] at hpath
  unfold expandHome
  split
  · next htilde => exact absurd (Or.inl htilde) hpath
  · next rest hrest => exact absurd (Or.inr ⟨rest, hrest⟩) hpath
  · rfl

theorem expandHome_expands (home path : String) : Expands home path (expandHome home path) where
  tilde := by
    rintro rfl
    exact expandHome_tilde home
  below := by
    rintro rest rfl hrelative
    rw [expandHome_below]
    exact ⟨absolute_joinText hrelative, names_joinText hrelative⟩
  rooted := by
    rintro rest rfl hrooted
    rw [expandHome_below, joinText, if_pos hrooted]
  inside := by
    rintro rest rfl hdown
    rw [expandHome_below]
    cases hrooted : rest.startsWith "/" with
    | true =>
        rw [joinText, if_pos hrooted]
        exact ⟨fun hinside _ => hinside, fun hinside => hinside rfl⟩
    | false =>
        refine iff_of_true ⟨absolute_joinText hrooted, _, names_joinText hrooted, hdown⟩ ?_
        intro habsurd
        cases habsurd
  kept := expandHome_kept

/-! ## Once is enough -/

/-- A directory can be a home if its own text has no tilde to be replaced, but for a tilde alone,
which would be replaced by itself. -/
def IsHome (home : String) : Prop :=
  home ≠ "" ∧ ∀ rest, home ≠ "~/" ++ rest

theorem not_hasTilde_append (hhome : IsHome home) (htilde : home ≠ "~") (rest : String) :
    ¬HasTilde (home ++ rest) := by
  have hplain : ¬HasTilde home := by
    rintro (halone | ⟨more, hmore⟩)
    · exact htilde halone
    · exact hhome.2 more hmore
  rw [hasTilde_iff] at hplain
  rw [hasTilde_iff, String.toList_append]
  cases hchars : home.toList with
  | nil => exact absurd (String.toList_eq_nil_iff.mp hchars) hhome.1
  | cons c cs =>
      rw [hchars] at hplain
      rintro (halone | ⟨more, hmore⟩)
      · obtain ⟨rfl, hcs⟩ := List.cons.inj halone
        obtain ⟨rfl, -⟩ := List.append_eq_nil_iff.mp hcs
        exact hplain (Or.inl rfl)
      · obtain ⟨rfl, hcs⟩ := List.cons.inj hmore
        rcases List.append_eq_cons_iff.mp hcs with ⟨rfl, -⟩ | ⟨more', rfl, -⟩
        · exact hplain (Or.inl rfl)
        · exact hplain (Or.inr ⟨more', rfl⟩)

theorem expandHome_joinText (hhome : IsHome home) {rest : String}
    (hrelative : rest.startsWith "/" = false) :
    expandHome home (joinText home rest) = joinText home rest := by
  by_cases htilde : home = "~"
  · have hends : "~".endsWith "/" = false := by
      rw [String.endsWith_eq_endsWith_toSlice, Bool.eq_false_iff, Ne,
        String.Slice.endsWith_string_iff, String.copy_toSlice]
      decide
    have hjoined : joinText "~" rest = "~/" ++ rest := by
      unfold joinText
      rw [if_neg (by simp [hrelative]), if_neg (by simp [hends])]
      rfl
    rw [htilde, hjoined, expandHome_below, hjoined]
  · apply expandHome_kept
    unfold joinText
    rw [if_neg (by simp [hrelative])]
    split_ifs
    · exact not_hasTilde_append hhome htilde rest
    · rw [String.append_assoc]
      exact not_hasTilde_append hhome htilde _

theorem not_hasTilde_of_rooted (hrooted : path.startsWith "/" = true) : ¬HasTilde path := by
  rw [String.startsWith_string_iff] at hrooted
  obtain ⟨more, hmore⟩ := hrooted
  have hchars : path.toList = '/' :: more := hmore.symm
  rw [hasTilde_iff, hchars]
  simp

/-- What has been put in is not put in again. -/
theorem expandHome_expandHome (hhome : IsHome home) (path : String) :
    expandHome home (expandHome home path) = expandHome home path := by
  by_cases hpath : HasTilde path
  · rcases hpath with rfl | ⟨rest, rfl⟩
    · rw [expandHome_tilde]
      by_cases htilde : home = "~"
      · rw [htilde, expandHome_tilde]
      · apply expandHome_kept
        rw [← String.append_empty (s := home)]
        exact not_hasTilde_append hhome htilde ""
    · rw [expandHome_below]
      cases hrooted : rest.startsWith "/" with
      | false => exact expandHome_joinText hhome hrooted
      | true =>
          rw [joinText, if_pos hrooted]
          exact expandHome_kept (not_hasTilde_of_rooted hrooted)
  · rw [expandHome_kept hpath, expandHome_kept hpath]

end FilePath

namespace Settings

theorem validate_eq_ok {home : String} {settings processed : Settings}
    (hprocessed : settings.validate home = .ok processed) :
    settings.faults.find? (·.1) = none ∧ processed = settings.expandPaths home := by
  unfold validate at hprocessed
  split at hprocessed
  · cases hprocessed
  · next hfaultless => exact ⟨hfaultless, (Except.ok.inj hprocessed).symm⟩

theorem expandPaths_expandPaths {home : String} (hhome : FilePath.IsHome home)
    (settings : Settings) :
    (settings.expandPaths home).expandPaths home = settings.expandPaths home := by
  have hagain : FilePath.expandHome home ∘ FilePath.expandHome home = FilePath.expandHome home :=
    funext (FilePath.expandHome_expandHome hhome)
  unfold expandPaths
  dsimp only
  rw [FilePath.expandHome_expandHome hhome, Option.map_map, hagain]

/-- **A tilde is the home directory**: in valid settings it is put in for the tilde of either path,
and what follows is found below it unless it is a path from the root.  All else stays as it is.
Where the home directory is not empty and no path below a tilde itself, nothing changes if the
settings are processed again. -/
theorem validate_expands_home {home : String} {settings processed : Settings}
    (hprocessed : settings.validate home = .ok processed) :
    FilePath.Expands home settings.core.dataDirectory processed.core.dataDirectory ∧
      Option.Rel (FilePath.Expands home) settings.core.logFile processed.core.logFile ∧
      processed =
        { settings with
          core :=
            { settings.core with
              dataDirectory := processed.core.dataDirectory
              logFile := processed.core.logFile } } ∧
      (FilePath.IsHome home → processed.validate home = .ok processed) := by
  obtain ⟨hfaultless, rfl⟩ := validate_eq_ok hprocessed
  refine ⟨FilePath.expandHome_expands home _, ?_, rfl, ?_⟩
  · show Option.Rel _ settings.core.logFile (settings.core.logFile.map _)
    cases settings.core.logFile with
    | none => exact .none
    | some file => exact .some (FilePath.expandHome_expands home file)
  · intro hhome
    have hfaults : (settings.expandPaths home).faults = settings.faults := rfl
    unfold validate
    rw [hfaults, hfaultless]
    dsimp only
    rw [expandPaths_expandPaths hhome]

/-- Settings that keep the data in a given directory and log into the home directory. -/
def keeping (dataDirectory : String) : Settings :=
  { core := { logFile := some "~", dataDirectory } }

theorem validate_keeping (home dataDirectory : String) :
    (keeping dataDirectory).validate home = .ok ((keeping dataDirectory).expandPaths home) := by
  have hfaultless : (keeping dataDirectory).faults.find? (·.1) = none := by
    show (keeping "").faults.find? (·.1) = none
    decide +kernel
  unfold validate
  rw [hfaultless]

theorem validate_expands_home_notes :
    ∃ processed, (keeping "~/notes//2024").validate "/home/anna" = .ok processed ∧
      (FilePath.ofText processed.core.dataDirectory).names = ["home", "anna", "notes", "2024"] ∧
      processed.core.logFile = some "/home/anna" ∧
      processed.validate "/home/anna" = .ok processed := by
  have hprocessed := validate_keeping "/home/anna" "~/notes//2024"
  refine ⟨_, hprocessed, ?_⟩
  obtain ⟨hdata, hlog, -, hagain⟩ := validate_expands_home hprocessed
  refine ⟨?_, ?_, hagain ⟨by decide, ?_⟩⟩
  · obtain ⟨-, hnames⟩ := hdata.below "notes//2024" rfl (by simp)
    rw [hnames]
    decide
  · cases hlog with
    | some hlog => exact congrArg some (hlog.tilde rfl)
  · intro rest hhome
    have hchars := congrArg String.toList hhome
    simp at hchars

/-- A second slash after the tilde leads out of the home directory. -/
theorem validate_leaves_home :
    ∃ processed, (keeping "~//etc").validate "/home/anna" = .ok processed ∧
      ".." ∉ (FilePath.ofText "/etc").names ∧
      ¬FilePath.IsInside (.ofText "/home/anna") (.ofText processed.core.dataDirectory) := by
  refine ⟨_, validate_keeping "/home/anna" "~//etc", by decide, ?_⟩
  have hrooted : FilePath.expandHome "/home/anna" "~//etc" = "/etc" :=
    (FilePath.expandHome_expands "/home/anna" "~//etc").rooted "/etc" rfl (by simp)
  show ¬FilePath.IsInside _ (.ofText (FilePath.expandHome "/home/anna" "~//etc"))
  rw [hrooted]
  rintro ⟨-, below, hnames, -⟩
  have hfirst := congrArg List.head? hnames
  revert hfirst
  show some "etc" ≠ some "home"
  decide

end Settings

end ToolAssistant
