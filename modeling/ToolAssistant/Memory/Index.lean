import ToolAssistant.Memory.Store
import ToolAssistant.Text.IndexToken
import ToolAssistant.Text.Lowercase
import ToolAssistant.Text.Numeric

/-!
# The local memory index

Every turn is kept as one document: a row of a table, with its owner, and an entry of a full-text
index under the number of the row.  A row that goes in brings its entry along.  Every attempt to
store a turn takes the next number, whether or not the turn goes in.  A search asks the
full-text index for the entries that hold at least one of the words of the query, ranks them by how
much they say about those words, and keeps those whose row belongs to the user.

## Strategy

A word of the query is folded and cut into tokens like the documents, so it is a phrase: a list of
tokens that have to follow one another.  The weight of a phrase falls with the number of documents
that hold it; its frequency in a document counts less in a long document.  Both numbers are taken
over all entries, whoever owns their rows.
-/

namespace ToolAssistant

/-- A row of the table: a stored turn and who owns it. -/
structure Document where
  rowId : Nat
  turnId : String
  userId : String
  content : String
  deriving DecidableEq, Repr

/-- An entry of the full-text index: the tokens of a row. -/
structure IndexEntry where
  rowId : Nat
  tokens : List (List Char)
  deriving DecidableEq, Repr

/-- The table and its full-text index, each in the order in which it grew, and the last number that
was taken. -/
structure Index where
  documents : List Document
  entries : List IndexEntry
  lastRow : Nat
  deriving DecidableEq, Repr

/-! ## Queries -/

namespace IndexQuery

/-- The words of a text that can be searched for: its runs of at least two letters or digits, in
small letters. -/
def terms (text : String) : List String :=
  let long (run : List Char) : Bool := 2 ≤ run.length
  ((Text.runs Text.isAlphanumeric text.toList).filter long).map fun run =>
    Text.toLowercase (String.ofList run)

/-- A word between quotes. -/
def quoted (term : String) : String :=
  "\"" ++ term ++ "\""

/-- The query for a text, unless there is nothing to search for. -/
def ofText? (text : String) : Option String :=
  let terms := terms text
  if terms.isEmpty then none else some (String.intercalate " OR " (terms.map quoted))

end IndexQuery

/-- The tokens that have to follow one another. -/
abbrev Phrase := List (List Char)

/-- The phrases of a text's words. -/
def phrasesOf (text : String) : List Phrase :=
  (IndexQuery.terms text).map Text.indexTokens

/-- How often a phrase occurs among tokens.  A phrase without tokens never does. -/
def occurrences (phrase : Phrase) : List (List Char) → Nat
  | [] => 0
  | token :: rest =>
    (if !phrase.isEmpty && phrase.isPrefixOf (token :: rest) then 1 else 0) +
      occurrences phrase rest

/-! ## Ranking -/

namespace Ranking

/-- How soon more occurrences stop counting. -/
def saturation : Float := 1.2

/-- How much the length of a document counts. -/
def lengthShare : Float := 0.75

/-- The weight of a phrase that most documents hold. -/
def leastWeight : Float := 1e-6

/-- The weight of a phrase that `holding` of `total` documents hold.  Its logarithm is positive only
if fewer than half of them do. -/
def weight (total holding : Nat) : Float :=
  if total ≤ 2 * holding then leastWeight
  else Float.log ((total.toFloat - holding.toFloat + 0.5) / (holding.toFloat + 0.5))

/-- What a phrase adds to the score of a document of some length. -/
def contribution (weight : Float) (frequency length : Nat) (meanLength : Float) : Float :=
  let f := frequency.toFloat
  let share := 1.0 - lengthShare + lengthShare * length.toFloat / meanLength
  weight * (f * (saturation + 1.0) / (f + saturation * share))

end Ranking

/-- A phrase with its weight. -/
structure WeightedPhrase where
  phrase : Phrase
  weight : Float

namespace Index

/-- The index without documents. -/
def empty : Index := ⟨[], [], 0⟩

/-- Is the turn stored? -/
def contains (index : Index) (turnId : String) : Bool :=
  index.documents.any (·.turnId == turnId)

/-- Puts a row into the table, and its entry into the full-text index. -/
def put (index : Index) (document : Document) : Index :=
  { index with
    documents := index.documents ++ [document]
    entries := index.entries ++ [⟨document.rowId, Text.indexTokens document.content⟩] }

/-- Stores a turn, unless one with its identifier is stored.  The number that it takes is gone in
either case. -/
def add (index : Index) (turn : Turn) (userId : String) : Index :=
  let rowId := index.lastRow + 1
  let numbered := { index with lastRow := rowId }
  if index.contains turn.id then numbered
  else numbered.put ⟨rowId, turn.id, userId, turn.transcript⟩

/-- How many documents a user owns. -/
def count (index : Index) (userId : String) : Nat :=
  index.documents.countP (·.userId == userId)

/-- How many tokens all entries have together. -/
def tokenCount (index : Index) : Nat :=
  (index.entries.map fun entry => entry.tokens.length).foldr (· + ·) 0

/-- The mean number of tokens of an entry. -/
def meanLength (index : Index) : Float :=
  index.tokenCount.toFloat / index.entries.length.toFloat

/-- How many entries hold a phrase. -/
def holding (index : Index) (phrase : Phrase) : Nat :=
  index.entries.countP fun entry => 0 < occurrences phrase entry.tokens

/-- The phrases of a query with their weights. -/
def weigh (index : Index) (query : String) : List WeightedPhrase :=
  (phrasesOf query).map fun phrase =>
    ⟨phrase, Ranking.weight index.entries.length (index.holding phrase)⟩

/-- Does the entry hold one of the phrases of a query? -/
def matchesQuery (query : String) (entry : IndexEntry) : Bool :=
  (phrasesOf query).any fun phrase => 0 < occurrences phrase entry.tokens

/-- The score of a document with the given tokens. -/
def score (phrases : List WeightedPhrase) (meanLength : Float) (tokens : List (List Char)) :
    Float :=
  phrases.foldl
    (fun total weighted =>
      total + Ranking.contribution weighted.weight (occurrences weighted.phrase tokens)
        tokens.length meanLength)
    0.0

/-- Inserts a snippet before the first one with a lower score. -/
def insertRanked (snippet : Snippet) : List Snippet → List Snippet
  | [] => [snippet]
  | other :: rest =>
    if other.score < snippet.score then snippet :: other :: rest
    else other :: insertRanked snippet rest

/-- The snippets from the highest score to the lowest; equal scores keep their order. -/
def rank (snippets : List Snippet) : List Snippet :=
  snippets.foldl (fun ranked snippet => insertRanked snippet ranked) []

/-- The first snippets up to a limit, which is a signed word; a negative one is no limit. -/
def limited (limit : Nat) (snippets : List Snippet) : List Snippet :=
  if limit % UInt64.size < Nat.pow 2 63 then snippets.take (limit % UInt64.size) else snippets

/-- The row of an entry, if it belongs to the user. -/
def ownedRow? (index : Index) (userId : String) (entry : IndexEntry) : Option Document :=
  (index.documents.find? (·.rowId == entry.rowId)).filter (·.userId == userId)

/-- A row that a search brings, with the score of its entry. -/
def snippet (weighted : List WeightedPhrase) (meanLength : Float) (entry : IndexEntry)
    (document : Document) : Snippet where
  text := document.content
  score := score weighted meanLength entry.tokens
  userId := document.userId

/-- The documents of a user that hold a word of the query, the highest score first. -/
def search (index : Index) (query userId : String) (limit : Nat) : List Snippet :=
  let weighted := index.weigh query
  let mean := index.meanLength
  let found := (index.entries.filter (matchesQuery query)).filterMap fun entry =>
    (index.ownedRow? userId entry).map (snippet weighted mean entry)
  limited limit (rank found)

/-- An index that is part of a world, as a memory store.  It answers at once. -/
def store {σ : Type} (view : σ → Index) (update : (Index → Index) → σ → σ) : MemoryStore σ where
  name := "sqlite"
  search query userId limit := fun world =>
    (.ends .zero (.ok ((view world).search query userId limit)), world)
  add turn userId := fun world =>
    (.ends .zero (.ok ()), update (fun index => index.add turn userId) world)

end Index

end ToolAssistant
