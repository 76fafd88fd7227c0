import Mathlib.Data.List.Induction
import ToolAssistant.Memory.Index

/-!
# What a local index holds

The index is spread over a table and a full-text index that follows it, and a turn goes in only if
no turn of its identifier is there, whoever stored that one.  After any number of additions for any
users, the table holds the first addition of every turn, under the number that this addition took,
and the full-text index holds the tokens of just these rows (`holds_after`).  Everything else about
the state is read off these equations.
-/

namespace ToolAssistant

/-- A turn that is to be stored, and the user that it is stored for. -/
abbrev Addition := Turn × String

/-- The entry that comes with a row. -/
def Document.entry (document : Document) : IndexEntry :=
  ⟨document.rowId, Text.indexTokens document.content⟩

/-- A document without its number: the turn, the owner and the text. -/
def Document.unnumbered (document : Document) : String × String × String :=
  (document.turnId, document.userId, document.content)

namespace Index

/-- The index after some additions. -/
def after (adds : List Addition) : Index :=
  adds.foldl (fun index add => index.add add.1 add.2) empty

/-- The first value of every key, in order. -/
def firstOf {α : Type} (key : α → String) : List α → List α
  | [] => []
  | value :: rest => value :: (firstOf key rest).filter (key · != key value)

/-- The first addition of every turn, in order. -/
def firstAdds (adds : List Addition) : List Addition :=
  firstOf (·.1.id) adds

/-- The row of an addition.  Every addition takes a number, also one that is not stored. -/
def rowOf (position : Nat) (add : Addition) : Document :=
  ⟨position + 1, add.1.id, add.2, add.1.transcript⟩

/-- The table holds the first row of every turn, and the full-text index is in step with it. -/
structure Holds (adds : List Addition) (index : Index) : Prop where
  documents_eq : index.documents = firstOf (·.turnId) (adds.mapIdx rowOf)
  entries_eq : index.entries = index.documents.map Document.entry
  lastRow_eq : index.lastRow = adds.length

/-! ## First values -/

section FirstOf

variable {α β : Type} (key : α → String)

theorem mem_keys_firstOf (values : List α) (k : String) :
    k ∈ (firstOf key values).map key ↔ k ∈ values.map key := by
  induction values with
  | nil => exact Iff.rfl
  | cons value rest ih =>
      simp only [List.mem_map] at ih
      simp only [firstOf, List.map_cons, List.mem_cons, List.mem_map, List.mem_filter, bne_iff_ne]
      by_cases heq : k = key value
      · simp [heq]
      · simp only [heq, false_or, ← ih]
        constructor
        · rintro ⟨other, ⟨hmem, -⟩, hkey⟩
          exact ⟨other, hmem, hkey⟩
        · rintro ⟨other, hmem, rfl⟩
          exact ⟨other, ⟨hmem, heq⟩, rfl⟩

theorem nodup_keys_firstOf (values : List α) : ((firstOf key values).map key).Nodup := by
  induction values with
  | nil => exact List.nodup_nil
  | cons value rest ih =>
      rw [firstOf, List.map_cons, List.nodup_cons]
      constructor
      · simp [List.mem_map, List.mem_filter]
      · exact ih.sublist (List.filter_sublist.map _)

theorem firstOf_sublist (values : List α) : (firstOf key values).Sublist values := by
  induction values with
  | nil => exact List.Sublist.refl []
  | cons value rest ih => exact (List.filter_sublist.trans ih).cons_cons value

/-- A later value counts only if it is of a new key. -/
theorem firstOf_append_singleton (values : List α) (value : α) :
    firstOf key (values ++ [value]) =
      if key value ∈ values.map key then firstOf key values
      else firstOf key values ++ [value] := by
  induction values with
  | nil => simp [firstOf]
  | cons first rest ih =>
      rw [List.cons_append, firstOf, ih, firstOf]
      by_cases hrest : key value ∈ rest.map key
      · have hknown : key value ∈ (first :: rest).map key := List.mem_cons_of_mem _ hrest
        rw [if_pos hrest, if_pos hknown]
      · rw [if_neg hrest, List.filter_append]
        by_cases hfirst : key value = key first
        · simp [hfirst]
        · have hnew : key value ∉ (first :: rest).map key := by
            rw [List.map_cons, List.mem_cons, not_or]
            exact ⟨hfirst, hrest⟩
          rw [if_neg hnew]
          simp [hfirst]

/-- A value of a key that is there may as well be left out. -/
theorem firstOf_append_cons {values : List α} {value : α} (hknown : key value ∈ values.map key)
    (more : List α) : firstOf key (values ++ value :: more) = firstOf key (values ++ more) := by
  induction more using List.reverseRecOn with
  | nil => rw [firstOf_append_singleton, if_pos hknown, List.append_nil]
  | append_singleton more later ih =>
      have hkeys : key later ∈ (values ++ value :: more).map key ↔
          key later ∈ (values ++ more).map key := by
        rw [← mem_keys_firstOf, ih, mem_keys_firstOf]
      rw [← List.cons_append, ← List.append_assoc, ← List.append_assoc, firstOf_append_singleton,
        firstOf_append_singleton, ih]
      simp only [hkeys]

theorem map_firstOf (f : β → α) (values : List β) :
    (firstOf (fun value => key (f value)) values).map f = firstOf key (values.map f) := by
  induction values with
  | nil => rfl
  | cons value rest ih =>
      rw [firstOf, List.map_cons, List.map_cons, firstOf, ← ih, List.filter_map]
      rfl

end FirstOf

/-! ## The state after some additions -/

/-- What a row has from its addition, whatever its number is. -/
private theorem map_rows {α : Type} {ofRow : Document → α} {ofAdd : Addition → α}
    (hrow : ∀ position add, ofRow (rowOf position add) = ofAdd add) (adds : List Addition) :
    (adds.mapIdx rowOf).map ofRow = adds.map ofAdd := by
  apply List.ext_getElem
  · simp
  · intro position hleft hright
    simp [hrow]

section Holds

variable {adds : List Addition} {index : Index}

/-- But for the numbers, the rows are those of the first additions. -/
theorem Holds.map_unnumbered (hholds : Holds adds index) :
    index.documents.map Document.unnumbered =
      (firstAdds adds).map fun add => (add.1.id, add.2, add.1.transcript) := by
  have hrows : (adds.mapIdx rowOf).map Document.unnumbered =
      adds.map fun add => (add.1.id, add.2, add.1.transcript) := map_rows (fun _ _ => rfl) adds
  calc index.documents.map Document.unnumbered
      = firstOf (·.1) ((adds.mapIdx rowOf).map Document.unnumbered) := by
        rw [hholds.documents_eq, ← map_firstOf]
        rfl
    _ = firstOf (·.1) (adds.map fun add => (add.1.id, add.2, add.1.transcript)) := by
        rw [hrows]
    _ = (firstAdds adds).map fun add => (add.1.id, add.2, add.1.transcript) := by
        rw [← map_firstOf]
        rfl

theorem Holds.map_turnId (hholds : Holds adds index) :
    index.documents.map (·.turnId) = (firstAdds adds).map (·.1.id) := by
  have hturns := congrArg (List.map (·.1)) hholds.map_unnumbered
  rwa [List.map_map, List.map_map] at hturns

theorem Holds.contains_iff (hholds : Holds adds index) (turnId : String) :
    index.contains turnId = true ↔ turnId ∈ adds.map (·.1.id) := by
  rw [← mem_keys_firstOf, ← firstAdds, ← hholds.map_turnId]
  simp [contains, List.mem_map]

theorem holds_empty : Holds [] empty :=
  ⟨rfl, rfl, rfl⟩

theorem Holds.add (hholds : Holds adds index) (add : Addition) :
    Holds (adds ++ [add]) (index.add add.1 add.2) := by
  have hlastRow : index.lastRow + 1 = (adds ++ [add]).length := by
    rw [hholds.lastRow_eq, List.length_append, List.length_singleton]
  have hturns : (adds.mapIdx rowOf).map (·.turnId) = adds.map (·.1.id) :=
    map_rows (fun _ _ => rfl) adds
  have hturn : (rowOf adds.length add).turnId = add.1.id := rfl
  have hfirsts := firstOf_append_singleton (·.turnId) (adds.mapIdx rowOf) (rowOf adds.length add)
  rw [← List.mapIdx_concat, hturns, hturn] at hfirsts
  rw [Index.add]
  by_cases hstored : index.contains add.1.id = true
  · rw [if_pos ((hholds.contains_iff add.1.id).mp hstored)] at hfirsts
    rw [if_pos hstored]
    exact ⟨hfirsts ▸ hholds.documents_eq, hholds.entries_eq, hlastRow⟩
  · rw [if_neg (mt (hholds.contains_iff add.1.id).mpr hstored)] at hfirsts
    rw [if_neg hstored, put, hholds.lastRow_eq]
    refine ⟨?_, ?_, hholds.lastRow_eq ▸ hlastRow⟩
    · rw [hfirsts, ← hholds.documents_eq]
      rfl
    · rw [List.map_append, ← hholds.entries_eq]
      rfl

/-- **After any additions the table holds the first one of every turn, and the full-text index is in
step with it.** -/
theorem holds_after (adds : List Addition) : Holds adds (after adds) := by
  induction adds using List.reverseRecOn with
  | nil => exact holds_empty
  | append_singleton adds add ih =>
      rw [after, List.foldl_append]
      exact ih.add add

/-- A turn that is stored stays as it is; adding it again only takes a number. -/
theorem Holds.add_stored (hholds : Holds adds index) {turn : Turn}
    (hstored : turn.id ∈ adds.map (·.1.id)) (userId : String) :
    index.add turn userId = { index with lastRow := adds.length + 1 } := by
  rw [Index.add, if_pos ((hholds.contains_iff turn.id).mpr hstored), hholds.lastRow_eq]

theorem Holds.count_eq (hholds : Holds adds index) (userId : String) :
    index.count userId = (firstAdds adds).countP (·.2 == userId) := by
  have howners := congrArg (List.countP (·.2.1 == userId)) hholds.map_unnumbered
  rwa [List.countP_map, List.countP_map] at howners

theorem Holds.nodup_turnId (hholds : Holds adds index) :
    (index.documents.map (·.turnId)).Nodup := by
  rw [hholds.map_turnId]
  exact nodup_keys_firstOf _ adds

/-- No two rows have the same number. -/
theorem Holds.nodup_rowId (hholds : Holds adds index) :
    (index.documents.map (·.rowId)).Nodup := by
  have hnumbers : (adds.mapIdx rowOf).map (·.rowId) = List.range' 1 adds.length := by
    apply List.ext_getElem
    · simp
    · intro position hleft hright
      simp [rowOf, Nat.add_comm]
  have hnodup : ((adds.mapIdx rowOf).map (·.rowId)).Nodup := hnumbers ▸ List.nodup_range'
  rw [hholds.documents_eq]
  exact hnodup.sublist ((firstOf_sublist _ _).map _)

end Holds

end Index

end ToolAssistant
