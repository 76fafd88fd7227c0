import Mathlib.Data.String.Basic
import ToolAssistant.Json.Basic

/-!
# Fields in order

The fields of an object stand in increasing order of their keys, each key once.  `Fields.Ordered`
says so, and whatever is built by insertion is ordered (`ordered_ofList`).  A search through the
keys from the front then comes on the least key that it looks for (`Ordered.find?_keys`).
-/

namespace ToolAssistant.Fields

/-- The keys increase, so each of them is there once. -/
def Ordered (fields : Fields) : Prop :=
  fields.keys.Pairwise (· < ·)

instance (fields : Fields) : Decidable fields.Ordered :=
  inferInstanceAs (Decidable (List.Pairwise _ _))

theorem mem_keys_insert {key k : String} {value : Json} {fields : Fields} :
    key ∈ keys (insert k value fields) ↔ key = k ∨ key ∈ keys fields := by
  induction fields with
  | nil => simp [insert, keys]
  | cons field rest ih =>
      obtain ⟨k', value'⟩ := field
      have hkeys (value : Json) (rest : Fields) :
          keys ((k', value) :: rest) = k' :: keys rest := rfl
      unfold insert
      split_ifs with hless heq
      · simp [keys]
      · simp [keys, heq]
      · rw [hkeys, hkeys, List.mem_cons, List.mem_cons, ih]
        tauto

/-- An insertion keeps the order. -/
theorem Ordered.insert {fields : Fields} (hordered : fields.Ordered) (key : String) (value : Json) :
    (Fields.insert key value fields).Ordered := by
  induction fields with
  | nil => exact List.pairwise_singleton _ _
  | cons field rest ih =>
      obtain ⟨k, value'⟩ := field
      obtain ⟨hfirst, hrest⟩ := List.pairwise_cons.mp hordered
      unfold Fields.insert
      split_ifs with hless heq
      · refine List.pairwise_cons.mpr ⟨fun other hother => ?_, hordered⟩
        rcases List.mem_cons.mp hother with rfl | hlater
        · exact hless
        · exact hless.trans (hfirst other hlater)
      · subst heq
        exact List.pairwise_cons.mpr ⟨hfirst, hrest⟩
      · refine List.pairwise_cons.mpr ⟨fun other hother => ?_, ih hrest⟩
        rcases mem_keys_insert.mp hother with rfl | hlater
        · exact lt_of_le_of_ne (not_lt.mp hless) (Ne.symm heq)
        · exact hfirst other hlater

/-- Fields that are inserted one after another are in order. -/
theorem ordered_ofList (pairs : List (String × Json)) : (ofList pairs).Ordered := by
  have hfold (fields : Fields) (hordered : fields.Ordered) :
      (pairs.foldl (fun fields pair => Fields.insert pair.1 pair.2 fields) fields).Ordered := by
    induction pairs generalizing fields with
    | nil => exact hordered
    | cons pair pairs ih => exact ih _ (hordered.insert pair.1 pair.2)
  exact hfold [] List.Pairwise.nil

/-- A search through the keys finds the least one with the property. -/
theorem Ordered.find?_keys {fields : Fields} (hordered : fields.Ordered) (wanted : String → Bool)
    (key : String) :
    fields.keys.find? wanted = some key ↔
      (key ∈ fields.keys ∧ wanted key = true) ∧
        ∀ other ∈ fields.keys, wanted other = true → key ≤ other := by
  rw [List.find?_eq_some_iff_append]
  constructor
  · rintro ⟨hwanted, before, behind, hkeys, hbefore⟩
    have hsorted : (before ++ key :: behind).Pairwise (· < ·) := hkeys ▸ hordered
    rw [hkeys]
    refine ⟨⟨List.mem_append_right before List.mem_cons_self, hwanted⟩, fun other hother hw => ?_⟩
    rcases List.mem_append.mp hother with hearlier | hlater
    · have hnot := hbefore other hearlier
      rw [hw] at hnot
      exact absurd hnot (by decide)
    rcases List.mem_cons.mp hlater with rfl | hlater
    · exact le_rfl
    · have htail := (List.pairwise_append.mp hsorted).2.1
      exact ((List.pairwise_cons.mp htail).1 other hlater).le
  · rintro ⟨⟨hkey, hwanted⟩, hleast⟩
    obtain ⟨before, behind, hkeys⟩ := List.append_of_mem hkey
    have hsorted : (before ++ key :: behind).Pairwise (· < ·) := hkeys ▸ hordered
    refine ⟨hwanted, before, behind, hkeys, fun other hother => ?_⟩
    have hless : other < key :=
      (List.pairwise_append.mp hsorted).2.2 other hother key List.mem_cons_self
    have hmem : other ∈ fields.keys := hkeys ▸ List.mem_append_left _ hother
    rw [Bool.not_eq_true_eq_eq_false]
    by_contra hw
    exact absurd hless (not_lt.mpr (hleast other hmem (by simpa using hw)))

end ToolAssistant.Fields
