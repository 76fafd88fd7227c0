import ToolAssistant.Proofs.Memory.Search

/-!
# What other users' turns do to a search

A search brings rows of one user only, but it ranks them with numbers that are taken over all
entries: how many there are, how long they are together, and how many hold each phrase.  So the
turns of other users decide neither which texts bear on a query nor how many come back; they do
reach the order of the texts, and with it the ones that a limit cuts off.

## Strategy

On an index that is in step, a search is a function of the user's own turns and of the score that
the index gives to a text (`search_eq_of_turns`).  Two indexes that hold the same turns of a user
rank the same texts, and they score them alike once the totals agree.
-/

namespace ToolAssistant.Index

/-- The turns of a user with their texts, in the order in which they were stored. -/
def turnsOf (index : Index) (userId : String) : List (String × String) :=
  (index.documents.filter (·.userId == userId)).map fun document =>
    (document.turnId, document.content)

/-- Does the text hold one of the phrases of a query? -/
def bearsOn (query text : String) : Bool :=
  (phrasesOf query).any fun phrase => 0 < occurrences phrase (Text.indexTokens text)

def textsFor (turns : List (String × String)) (query : String) : List String :=
  (turns.map (·.2)).filter (bearsOn query)

/-- A text of the user with the score that the index gives to it. -/
def scored (index : Index) (query userId text : String) : Snippet where
  text := text
  score := score (index.weigh query) index.meanLength (Text.indexTokens text)
  userId := userId

/-- What a search ranks depends on the user's turns and on the scores. -/
theorem map_answer_relevant (index : Index) (query userId : String) :
    (index.relevant query userId).map (index.answer query) =
      (textsFor (index.turnsOf userId) query).map (index.scored query userId) := by
  let owned := index.documents.filter (·.userId == userId)
  have hrelevant : index.relevant query userId =
      owned.filter fun document => bearsOn query document.content := by
    rw [List.filter_filter]
    apply List.filter_congr
    intro document _
    exact Bool.and_comm _ _
  have htexts : (index.turnsOf userId).map (·.2) = owned.map (·.content) := by
    rw [turnsOf, List.map_map]
    rfl
  rw [hrelevant, textsFor, htexts, List.filter_map, List.map_map]
  apply List.map_congr_left
  intro document hdocument
  have howner : document.userId = userId :=
    beq_iff_eq.mp (List.mem_filter.mp (List.mem_of_mem_filter hdocument)).2
  rw [Function.comp_apply, answer, scored, ← howner]
  rfl

theorem length_relevant (index : Index) (query userId : String) :
    (index.relevant query userId).length = (textsFor (index.turnsOf userId) query).length := by
  have hlength := congrArg List.length (map_answer_relevant index query userId)
  rwa [List.length_map, List.length_map] at hlength

theorem Holds.search_eq_of_turns {adds : List Addition} {index : Index} (hholds : Holds adds index)
    (query userId : String) (limit : UInt64) :
    index.search query userId limit.toNat =
      upTo limit
        (rank ((textsFor (index.turnsOf userId) query).map (index.scored query userId))) := by
  rw [hholds.search_eq, map_answer_relevant, limited_eq_upTo]

/-- The scores come from the totals alone. -/
theorem SameTotals.scored_eq {first second : Index} {query : String}
    (htotals : SameTotals first second query) (userId text : String) :
    first.scored query userId text = second.scored query userId text := by
  rw [scored, scored, htotals.weigh_eq, htotals.meanLength_eq]

section Ranking

variable (index : Index) (query userId : String) (texts : List String)

theorem length_rank_scored :
    (rank (texts.map (index.scored query userId))).length = texts.length := by
  rw [(rank_perm _).length_eq, List.length_map]

/-- However they are scored, the texts of a ranking are the ones that went in. -/
theorem rank_scored_perm :
    ((rank (texts.map (index.scored query userId))).map (·.text)).Perm texts := by
  have htexts : (texts.map (index.scored query userId)).map (·.text) = texts := by
    rw [List.map_map]
    exact List.map_id texts
  have hperm := (rank_perm (texts.map (index.scored query userId))).map (·.text)
  rwa [htexts] at hperm

end Ranking

/-- **Other users' turns change at most the order.**  Two stores that hold the same turns of a user
bring as many texts for a query, the same texts if there is room for all of them, and the same
answer if they agree on the totals. -/
theorem others_change_only_order {first second : List Addition} {userId : String}
    (hsame : (after first).turnsOf userId = (after second).turnsOf userId) (query : String)
    (limit : UInt64) :
    let one := (after first).search query userId limit.toNat
    let other := (after second).search query userId limit.toNat
    one.length = other.length ∧
      (((after first).relevant query userId).length ≤ limit.toNat →
        (one.map (·.text)).Perm (other.map (·.text))) ∧
      (SameTotals (after first) (after second) query → one = other) := by
  intro one other
  let texts := textsFor ((after first).turnsOf userId) query
  have hone : one = upTo limit (rank (texts.map ((after first).scored query userId))) :=
    (holds_after first).search_eq_of_turns query userId limit
  have hother : other = upTo limit (rank (texts.map ((after second).scored query userId))) := by
    have hsearch := (holds_after second).search_eq_of_turns query userId limit
    rwa [← hsame] at hsearch
  refine ⟨?_, ?_, ?_⟩
  · rw [hone, hother, upTo, upTo, List.length_take, List.length_take, length_rank_scored,
      length_rank_scored]
  · intro hroom
    rw [length_relevant] at hroom
    have hfew (index : Index) :
        (rank (texts.map (index.scored query userId))).length ≤ limit.toNat :=
      (length_rank_scored index query userId texts).trans_le hroom
    rw [hone, hother, upTo_of_room (hfew _), upTo_of_room (hfew _)]
    have hfirst := rank_scored_perm (after first) query userId texts
    have hsecond := rank_scored_perm (after second) query userId texts
    exact hfirst.trans hsecond.symm
  · intro htotals
    have hscored : (after first).scored query userId = (after second).scored query userId :=
      funext (htotals.scored_eq userId)
    rw [hone, hother, hscored]

/-! ## The order is not isolated -/

/-- A user says something and gets no answer. -/
def remark (id input userId : String) : Addition :=
  (⟨id, input, "", [], 0, false, ⟨⟨2024, 2, 25⟩, 0, 0⟩⟩, userId)

/-- Alice talks about rain. -/
def rainRemarks : List Addition :=
  [remark "a1" "rain" "alice", remark "a2" "rain or no rain at all" "alice"]

def bobAfterRain : List Addition :=
  rainRemarks ++ [remark "b1" "a cup of tea at six" "bob"]

def carolBeforeRain : List Addition :=
  remark "c1" "one pot of tea for two" "carol" :: rainRemarks

theorem others_change_only_order_tea :
    (after bobAfterRain).turnsOf "alice" = (after carolBeforeRain).turnsOf "alice" ∧
      (after bobAfterRain).search "rain" "alice" 5 =
        (after carolBeforeRain).search "rain" "alice" 5 := by
  have hsame : (after bobAfterRain).turnsOf "alice" = (after carolBeforeRain).turnsOf "alice" := by
    decide +kernel
  have htotals : SameTotals (after bobAfterRain) (after carolBeforeRain) "rain" :=
    ⟨by decide +kernel, by decide +kernel, by decide +kernel⟩
  exact ⟨hsame, (others_change_only_order hsame "rain" 5).2.2 htotals⟩

/-- **The order of an answer can tell what others said.**  Alone, the short remark about rain comes
first; once the store holds a remark about tea as well, texts are longer on average, the length of
the other remark counts less against it, and it comes first. -/
theorem order_not_isolated :
    ¬∀ (first second : List Addition) (userId : String),
      (after first).turnsOf userId = (after second).turnsOf userId →
      ∀ query (limit : UInt64),
        ((after first).search query userId limit.toNat).map (·.text) =
          ((after second).search query userId limit.toNat).map (·.text) := by
  intro hisolated
  have hsame : (after rainRemarks).turnsOf "alice" = (after bobAfterRain).turnsOf "alice" := by
    decide +kernel
  have hequal := hisolated rainRemarks bobAfterRain "alice" hsame "rain" 5
  exact absurd hequal (by decide +kernel)

end ToolAssistant.Index
