import Mathlib.Data.List.Infix
import ToolAssistant.Proofs.Decimal.Order
import ToolAssistant.Proofs.Memory.Query
import ToolAssistant.Proofs.Memory.Storage

/-!
# What a search of the local index brings

A search goes from the full-text index to the table, entry by entry, and drops the rows of other
users on the way.  On an index that is in step this comes to filtering the table: the user's
documents that hold a term of the query (`search_eq`), ranked and cut.  What a caller may rely on is
`Answers`: the user's documents, each relevant and none twice, the best ones first, at most as many
as asked for, and all of them if there is room.

## Strategy

Ranking is insertion into a list in which no score is below a later one.  That this is kept needs
only that comparing doubles is a strict order, so no score is looked into.  A score depends on the
texts of all entries but not on the numbers of their rows, so neither does an answer
(`Holds.search_congr`).
-/

namespace ToolAssistant

/-- The document holds a term of the query: the tokens of the term follow one another in it. -/
def Document.Mentions (document : Document) (query : String) : Prop :=
  ∃ term, IndexQuery.IsTerm query term ∧
    Text.indexTokens term ≠ [] ∧ Text.indexTokens term <:+: Text.indexTokens document.content

theorem Document.mentions_iff (document : Document) (query : String) :
    (∃ term ∈ IndexQuery.terms query, Text.indexTokens term ≠ [] ∧
      Text.indexTokens term <:+: Text.indexTokens document.content) ↔ document.Mentions query := by
  simp only [Document.Mentions, IndexQuery.mem_terms_iff]

instance (document : Document) (query : String) : Decidable (document.Mentions query) :=
  decidable_of_iff _ (document.mentions_iff query)

/-- A phrase occurs exactly where it is a run of the tokens. -/
theorem occurrences_pos_iff (phrase : Phrase) (tokens : List (List Char)) :
    0 < occurrences phrase tokens ↔ phrase ≠ [] ∧ phrase <:+: tokens := by
  induction tokens with
  | nil => simp [occurrences]
  | cons token rest ih =>
      have hhere : (!phrase.isEmpty && phrase.isPrefixOf (token :: rest)) = true ↔
          phrase ≠ [] ∧ phrase <+: token :: rest := by
        simp
      have hcount : 0 < occurrences phrase (token :: rest) ↔
          (!phrase.isEmpty && phrase.isPrefixOf (token :: rest)) = true ∨
            0 < occurrences phrase rest := by
        rw [occurrences]
        by_cases hyes : (!phrase.isEmpty && phrase.isPrefixOf (token :: rest)) = true
        · rw [if_pos hyes]
          exact iff_of_true (by omega) (Or.inl hyes)
        · rw [if_neg hyes, Nat.zero_add, or_iff_right hyes]
      rw [hcount, hhere, ih, List.infix_cons_iff, and_or_left]

namespace Index

theorem matchesQuery_iff (query : String) (document : Document) :
    matchesQuery query document.entry = true ↔ document.Mentions query := by
  rw [← document.mentions_iff]
  simp [matchesQuery, phrasesOf, Document.entry, occurrences_pos_iff]

/-! ## Ranking -/

/-- Nothing scores higher than what comes before it. -/
def IsRanked (snippets : List Snippet) : Prop :=
  snippets.Pairwise fun earlier later => ¬earlier.score < later.score

theorem insertRanked_perm (snippet : Snippet) (snippets : List Snippet) :
    (insertRanked snippet snippets).Perm (snippet :: snippets) := by
  induction snippets with
  | nil => exact List.Perm.refl _
  | cons other rest ih =>
      rw [insertRanked]
      split
      · exact List.Perm.refl _
      · exact (ih.cons other).trans (List.Perm.swap snippet other rest)

theorem IsRanked.insertRanked {snippets : List Snippet} (hranked : IsRanked snippets)
    (snippet : Snippet) : IsRanked (insertRanked snippet snippets) := by
  induction snippets with
  | nil => exact List.pairwise_singleton _ snippet
  | cons other rest ih =>
      obtain ⟨hother, hrest⟩ := List.pairwise_cons.mp hranked
      rw [Index.insertRanked]
      split
      · next hlower =>
          refine List.pairwise_cons.mpr ⟨?_, hranked⟩
          intro later hlater hhigher
          rcases List.mem_cons.mp hlater with rfl | hbehind
          · exact Double.lt_asymm hlower hhigher
          · exact hother later hbehind (Double.lt_trans hlower hhigher)
      · next hnotLower =>
          refine List.pairwise_cons.mpr ⟨?_, ih hrest⟩
          intro later hlater
          rcases List.mem_cons.mp ((insertRanked_perm snippet rest).mem_iff.mp hlater) with
            rfl | hbehind
          · exact hnotLower
          · exact hother later hbehind

theorem rank_append_singleton (snippets : List Snippet) (snippet : Snippet) :
    rank (snippets ++ [snippet]) = insertRanked snippet (rank snippets) := by
  rw [rank, List.foldl_append]
  rfl

theorem rank_isRanked (snippets : List Snippet) : IsRanked (rank snippets) := by
  induction snippets using List.reverseRecOn with
  | nil => exact List.Pairwise.nil
  | append_singleton snippets snippet ih =>
      rw [rank_append_singleton]
      exact ih.insertRanked snippet

theorem rank_perm (snippets : List Snippet) : (rank snippets).Perm snippets := by
  induction snippets using List.reverseRecOn with
  | nil => exact List.Perm.refl []
  | append_singleton snippets snippet ih =>
      rw [rank_append_singleton]
      have hinsert := insertRanked_perm snippet (rank snippets)
      have hmoved := List.perm_append_singleton snippet snippets
      exact (hinsert.trans (ih.cons snippet)).trans hmoved.symm

/-- What is ranked can be told from where it came. -/
theorem exists_perm_map_eq {α : Type} (f : α → Snippet) {ranked : List Snippet} {values : List α}
    (hperm : ranked.Perm (values.map f)) :
    ∃ order : List α, order.Perm values ∧ ranked = order.map f := by
  induction ranked generalizing values with
  | nil =>
      refine ⟨[], ?_, rfl⟩
      rw [List.map_eq_nil_iff.mp hperm.nil_eq.symm]
  | cons snippet ranked ih =>
      obtain ⟨value, hvalue, rfl⟩ := List.mem_map.mp (hperm.mem_iff.mp List.mem_cons_self)
      obtain ⟨before, behind, rfl⟩ := List.append_of_mem hvalue
      have hrest : ranked.Perm ((before ++ behind).map f) := by
        refine List.Perm.cons_inv (hperm.trans ?_)
        rw [List.map_append, List.map_cons, List.map_append]
        exact List.perm_middle
      obtain ⟨order, horder, rfl⟩ := ih hrest
      exact ⟨value :: order, (horder.cons value).trans List.perm_middle.symm, rfl⟩

/-! ## From entries to rows -/

/-- The user's documents that hold a term of the query. -/
def relevant (index : Index) (query userId : String) : List Document :=
  index.documents.filter fun document =>
    document.userId == userId && matchesQuery query document.entry

/-- What a search brings of a document. -/
def answer (index : Index) (query : String) (document : Document) : Snippet :=
  snippet (index.weigh query) index.meanLength document.entry document

theorem mem_relevant_iff {index : Index} {query userId : String} {document : Document} :
    document ∈ index.relevant query userId ↔
      document ∈ index.documents ∧ document.userId = userId ∧ document.Mentions query := by
  rw [relevant, List.mem_filter, Bool.and_eq_true, beq_iff_eq, matchesQuery_iff]

/-- The number of a row leads back to it. -/
theorem find?_rowId {documents : List Document} (hnodup : (documents.map (·.rowId)).Nodup)
    {document : Document} (hmem : document ∈ documents) :
    documents.find? (·.rowId == document.rowId) = some document := by
  induction documents with
  | nil => exact absurd hmem List.not_mem_nil
  | cons first rest ih =>
      rw [List.map_cons, List.nodup_cons] at hnodup
      rcases List.mem_cons.mp hmem with rfl | hrest
      · simp
      · have hne : first.rowId ≠ document.rowId := fun heq =>
          hnodup.1 (heq ▸ List.mem_map_of_mem hrest)
        rw [List.find?_cons_of_neg (by simpa using hne)]
        exact ih hnodup.2 hrest

section Search

variable {adds : List Addition} {index : Index}

theorem Holds.ownedRow?_eq (hholds : Holds adds index) (userId : String) {document : Document}
    (hmem : document ∈ index.documents) :
    index.ownedRow? userId document.entry = Option.guard (·.userId == userId) document := by
  have hrow : index.documents.find? (·.rowId == document.entry.rowId) = some document :=
    find?_rowId hholds.nodup_rowId hmem
  rw [ownedRow?, hrow]
  rfl

/-- Going through the entries and looking up their rows comes to going through the rows. -/
theorem Holds.filterMap_entries (hholds : Holds adds index) (query userId : String)
    {α : Type} (f : IndexEntry → Document → α) :
    ((index.entries.filter (matchesQuery query)).filterMap fun entry =>
        (index.ownedRow? userId entry).map (f entry)) =
      (index.relevant query userId).map fun document => f document.entry document := by
  let held := index.documents.filter fun document => matchesQuery query document.entry
  have hrows : ∀ document ∈ held, (index.ownedRow? userId document.entry).map (f document.entry) =
      (Option.guard (·.userId == userId) document).map fun row => f row.entry row := by
    intro document hdocument
    rw [hholds.ownedRow?_eq userId (List.mem_of_mem_filter hdocument)]
    cases hguard : Option.guard (fun row : Document => row.userId == userId) document with
    | none => rfl
    | some row =>
        obtain ⟨rfl, -⟩ := Option.guard_eq_some_iff.mp hguard
        rfl
  have hrelevant : index.relevant query userId =
      held.filterMap (Option.guard (·.userId == userId)) := by
    rw [List.filterMap_eq_filter, List.filter_filter]
    rfl
  rw [hrelevant, List.map_filterMap, hholds.entries_eq, List.filter_map, List.filterMap_map]
  exact List.filterMap_congr hrows

/-- **A search ranks the user's relevant documents and cuts the ranking.** -/
theorem Holds.search_eq (hholds : Holds adds index) (query userId : String) (limit : Nat) :
    index.search query userId limit =
      limited limit (rank ((index.relevant query userId).map (index.answer query))) := by
  rw [search, hholds.filterMap_entries]
  rfl

/-! ## What an answer depends on -/

/-- Two indexes agree on all that the ranking of a query takes from them as a whole. -/
structure SameTotals (first second : Index) (query : String) : Prop where
  entries : first.entries.length = second.entries.length
  tokens : first.tokenCount = second.tokenCount
  holding : ∀ phrase ∈ phrasesOf query, first.holding phrase = second.holding phrase

namespace SameTotals

variable {first second : Index} {query : String}

theorem weigh_eq (htotals : SameTotals first second query) :
    first.weigh query = second.weigh query := by
  apply List.map_congr_left
  intro phrase hphrase
  rw [htotals.entries, htotals.holding phrase hphrase]

theorem meanLength_eq (htotals : SameTotals first second query) :
    first.meanLength = second.meanLength := by
  rw [meanLength, meanLength, htotals.tokens, htotals.entries]

/-- The totals are taken over the tokens of the entries. -/
theorem of_map_tokens (htokens : first.entries.map (·.tokens) = second.entries.map (·.tokens))
    (query : String) : SameTotals first second query where
  entries := by simpa using congrArg List.length htokens
  tokens := by
    have hlengths := congrArg (List.map List.length) htokens
    rw [List.map_map, List.map_map] at hlengths
    exact congrArg (List.foldr (· + ·) 0) hlengths
  holding phrase _ := by
    have hheld := congrArg (List.countP fun tokens => 0 < occurrences phrase tokens) htokens
    rwa [List.countP_map, List.countP_map] at hheld

end SameTotals

/-- What a search ranks is settled by the documents without their numbers. -/
theorem map_answer_relevant_eq (index : Index) (query userId : String) :
    (index.relevant query userId).map (index.answer query) =
      ((index.documents.map Document.unnumbered).filter fun document =>
          document.2.1 == userId && matchesQuery query ⟨0, Text.indexTokens document.2.2⟩).map
        fun document => snippet (index.weigh query) index.meanLength
          ⟨0, Text.indexTokens document.2.2⟩ ⟨0, document.1, document.2.1, document.2.2⟩ := by
  rw [relevant, List.filter_map, List.map_map]
  rfl

/-- **The numbers of rows show in no answer.** -/
theorem Holds.search_congr {otherAdds : List Addition} {other : Index} (hholds : Holds adds index)
    (hother : Holds otherAdds other)
    (hsame : index.documents.map Document.unnumbered = other.documents.map Document.unnumbered)
    (query userId : String) (limit : Nat) :
    index.search query userId limit = other.search query userId limit := by
  have htokens : index.entries.map (·.tokens) = other.entries.map (·.tokens) := by
    have htexts := congrArg (List.map fun document => Text.indexTokens document.2.2) hsame
    rw [List.map_map, List.map_map] at htexts
    rw [hholds.entries_eq, hother.entries_eq, List.map_map, List.map_map]
    exact htexts
  have htotals := SameTotals.of_map_tokens htokens query
  rw [hholds.search_eq, hother.search_eq, map_answer_relevant_eq, map_answer_relevant_eq, hsame,
    htotals.weigh_eq, htotals.meanLength_eq]

/-- An addition of a turn that is stored shows in no later count and in no later answer. -/
theorem stored_unnoticed {add : Addition} (hstored : add.1.id ∈ adds.map (·.1.id))
    (more : List Addition) (userId : String) :
    (after (adds ++ add :: more)).count userId = (after (adds ++ more)).count userId ∧
      ∀ query limit, (after (adds ++ add :: more)).search query userId limit =
        (after (adds ++ more)).search query userId limit := by
  have hwith := holds_after (adds ++ add :: more)
  have hwithout := holds_after (adds ++ more)
  have hfirsts : firstAdds (adds ++ add :: more) = firstAdds (adds ++ more) :=
    firstOf_append_cons _ hstored more
  have hsame : (after (adds ++ add :: more)).documents.map Document.unnumbered =
      (after (adds ++ more)).documents.map Document.unnumbered := by
    rw [hwith.map_unnumbered, hwithout.map_unnumbered, hfirsts]
  refine ⟨?_, fun query => hwith.search_congr hwithout hsame query userId⟩
  rw [hwith.count_eq, hwithout.count_eq, hfirsts]

/-! ## Right answers -/

/-- What a limit lets through: the front, or everything if the limit is past the signed words. -/
def upTo {α : Type} (limit : UInt64) (list : List α) : List α :=
  list.take (if limit.toNat < Nat.pow 2 63 then limit.toNat else list.length)

theorem limited_eq_upTo (limit : UInt64) (snippets : List Snippet) :
    limited limit.toNat snippets = upTo limit snippets := by
  have hword : limit.toNat % UInt64.size = limit.toNat := Nat.mod_eq_of_lt limit.toNat_lt
  rw [limited, hword, upTo]
  split
  · rfl
  · rw [List.take_length]

section UpTo

variable {α β : Type} {limit : UInt64} {list : List α}

theorem upTo_map (limit : UInt64) (list : List α) (f : α → β) :
    upTo limit (list.map f) = (upTo limit list).map f := by
  rw [upTo, upTo, List.length_map, List.map_take]

theorem upTo_length_le (hfew : list.length < Nat.pow 2 63) :
    (upTo limit list).length ≤ limit.toNat := by
  rw [upTo, List.length_take]
  split <;> omega

theorem upTo_of_room (hroom : list.length ≤ limit.toNat) : upTo limit list = list := by
  rw [upTo, List.take_of_length_le]
  split <;> omega

end UpTo

/-- `shown` is a right answer to a search: its documents are stored, owned by the user and relevant,
none is there twice, there are no more than asked for, and all relevant ones if there is room. -/
structure Answers (index : Index) (query userId : String) (limit : Nat) (shown : List Document) :
    Prop where
  stored : ∀ document ∈ shown, document ∈ index.documents
  owned : ∀ document ∈ shown, document.userId = userId
  relevant : ∀ document ∈ shown, document.Mentions query
  distinct : (shown.map (·.turnId)).Nodup
  -- The number of a row is a positive signed word, so a table has fewer rows than that.
  bounded : index.documents.length < Nat.pow 2 63 → shown.length ≤ limit
  complete :
    (index.documents.filter fun document =>
      document.userId = userId ∧ document.Mentions query).length ≤ limit →
    ∀ document ∈ index.documents, document.userId = userId → document.Mentions query →
      document ∈ shown

theorem Holds.answers (hholds : Holds adds index) (query userId : String) (limit : UInt64) :
    IsRanked (index.search query userId limit.toNat) ∧
      ∃ shown, index.search query userId limit.toNat = shown.map (index.answer query) ∧
        Answers index query userId limit.toNat shown := by
  let found := (index.relevant query userId).map (index.answer query)
  obtain ⟨order, horder, hrank⟩ := exists_perm_map_eq (index.answer query) (rank_perm found)
  have hcut : (upTo limit order).Sublist order := List.take_sublist _ _
  have hmem (document : Document) : document ∈ order ↔ document ∈ index.documents ∧
      document.userId = userId ∧ document.Mentions query :=
    horder.mem_iff.trans mem_relevant_iff
  have hall : (index.documents.filter fun document =>
      document.userId = userId ∧ document.Mentions query).length = order.length := by
    rw [horder.length_eq, Index.relevant]
    congr 1
    apply List.filter_congr
    intro document _
    rw [Bool.eq_iff_iff, Bool.and_eq_true, beq_iff_eq, matchesQuery_iff, decide_eq_true_iff]
  have hsearch : index.search query userId limit.toNat =
      (upTo limit order).map (index.answer query) := by
    rw [hholds.search_eq, hrank, limited_eq_upTo, upTo_map]
  refine ⟨?_, upTo limit order, hsearch, ?_⟩
  · rw [hsearch]
    exact (hrank ▸ rank_isRanked found).sublist (hcut.map _)
  · refine ⟨?_, ?_, ?_, ?_, ?_, ?_⟩
    · intro document hdocument
      exact ((hmem document).mp (hcut.mem hdocument)).1
    · intro document hdocument
      exact ((hmem document).mp (hcut.mem hdocument)).2.1
    · intro document hdocument
      exact ((hmem document).mp (hcut.mem hdocument)).2.2
    · have hdistinct : (order.map (·.turnId)).Nodup :=
        (horder.map (·.turnId)).nodup_iff.mpr
          (hholds.nodup_turnId.sublist (List.filter_sublist.map _))
      exact hdistinct.sublist (hcut.map _)
    · intro hfew
      have hle : order.length ≤ index.documents.length :=
        horder.length_eq.trans_le (List.length_filter_le _ _)
      exact upTo_length_le (hle.trans_lt hfew)
    · intro hroom document hstored howned hmentions
      rw [upTo_of_room (hall ▸ hroom), hmem]
      exact ⟨hstored, howned, hmentions⟩

theorem search_of_no_terms (index : Index) {query : String}
    (hnothing : ∀ term, ¬IndexQuery.IsTerm query term) (userId : String) (limit : Nat) :
    index.search query userId limit = [] := by
  have hterms : IndexQuery.terms query = [] :=
    List.eq_nil_iff_forall_not_mem.mpr fun term hmem =>
      hnothing term ((IndexQuery.mem_terms_iff query term).mp hmem)
  have hnone (entry : IndexEntry) : matchesQuery query entry = false := by
    rw [matchesQuery, phrasesOf, hterms]
    rfl
  have hfound : index.entries.filter (matchesQuery query) = [] := by
    simp [hnone]
  rw [search, hfound]
  show limited limit [] = []
  rw [limited]
  split
  · exact List.take_nil
  · rfl

end Search

/-- **Local memory is scoped and idempotent.**  After any additions it holds the first one of every
turn.  A turn that is added again, for whomever, only takes a number, and this shows in no count and
no answer after any further additions.  A search brings the user's own relevant documents, ranked,
and nothing for a query without a word that can be searched for. -/
theorem scoped_and_idempotent (adds : List Addition) :
    Holds adds (after adds) ∧
      (∀ turn userId, turn.id ∈ adds.map (·.1.id) →
        (after adds).add turn userId = { after adds with lastRow := adds.length + 1 } ∧
        ∀ more owner,
          (after (adds ++ (turn, userId) :: more)).count owner =
              (after (adds ++ more)).count owner ∧
            ∀ query limit, (after (adds ++ (turn, userId) :: more)).search query owner limit =
              (after (adds ++ more)).search query owner limit) ∧
      (∀ userId, (after adds).count userId = (firstAdds adds).countP (·.2 == userId)) ∧
      (∀ query userId (limit : UInt64),
        IsRanked ((after adds).search query userId limit.toNat) ∧
        ∃ shown, (after adds).search query userId limit.toNat =
            shown.map ((after adds).answer query) ∧
          Answers (after adds) query userId limit.toNat shown) ∧
      ∀ query userId limit, (∀ term, ¬IndexQuery.IsTerm query term) →
        (after adds).search query userId limit = [] := by
  have hholds := holds_after adds
  refine ⟨hholds, ?_, hholds.count_eq, hholds.answers, ?_⟩
  · intro turn userId hstored
    exact ⟨hholds.add_stored hstored userId, stored_unnoticed hstored⟩
  · intro query userId limit hnothing
    exact search_of_no_terms (after adds) hnothing userId limit

end Index

end ToolAssistant
