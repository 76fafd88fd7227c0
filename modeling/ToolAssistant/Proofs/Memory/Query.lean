import ToolAssistant.Memory.Index
import ToolAssistant.Proofs.Text.Blank
import ToolAssistant.Proofs.Text.Lowercase

/-!
# Free text as a query

The full-text index has a query language.  Outside of quotes a query may hold operators, column
filters, wildcards and groups; a word in quotes is only a word.  `IndexQuery.lexemes?` reads a query
as the index does, and `IndexQuery.words?` takes it back to its words if it is nothing but words in
quotes with `OR` between them.  The main statement is that the query of every text is read so, with
the words of the text, whatever else the text holds.

## Strategy

Small letters bring no marks into a word, so it holds no quote that could end it too early
(`lexFrom_word`).  Behind each word come the same four characters, and they are read as one `OR`
(`lexFrom_separator`).
-/

namespace ToolAssistant.IndexQuery

/-! ## The query language -/

/-- A piece of a query: a word in quotes, a word without quotes, or a mark. -/
inductive Lexeme where
  | quoted (word : List Char)
  | bare (word : List Char)
  | mark (c : Char)
  deriving DecidableEq, Repr

/-- The blanks between lexemes. -/
def blanks : List Char :=
  [' ', '\t', '\n', '\r']

/-- The characters that mean something on their own: groups, column filters, phrases that begin or
go on, and the like. -/
def marks : List Char :=
  ['(', ')', '\x7b', '\x7d', ':', ',', '+', '*', '-', '^']

/-- May the character stand in a word without quotes? -/
def isBare (c : Char) : Bool :=
  c.isAlphanum || c == '_' || c == '\x1a' || 0x80 ≤ c.toNat

/-- Where a reader is: between lexemes, in a word in quotes, behind a quote that ends such a word
unless another one follows, or in a word without quotes. -/
inductive Reading where
  | between
  | inQuotes (word : List Char)
  | behindQuote (word : List Char)
  | inBare (word : List Char)

/-- The lexemes that are complete at the end of a query.  A quote has to be closed. -/
def Reading.finish? : Reading → Option (List Lexeme)
  | between => some []
  | inQuotes _ => none
  | behindQuote word => some [.quoted word]
  | inBare word => some [.bare word]

/-- What a character begins that goes on with nothing, behind some lexemes. -/
def begin? (complete : List Lexeme) (c : Char) : Option (List Lexeme × Reading) :=
  if blanks.contains c then some (complete, .between)
  else if c = '"' then some (complete, .inQuotes [])
  else if marks.contains c then some (complete ++ [.mark c], .between)
  else if isBare c then some (complete, .inBare [c])
  else none

/-- The lexemes that a character completes, and where the reader is behind it.  Two quotes in a word
stand for one; a zero character ends the query, so the word is not closed. -/
def Reading.next? : Reading → Char → Option (List Lexeme × Reading)
  | between, c => begin? [] c
  | inQuotes word, c =>
    if c = '"' then some ([], .behindQuote word)
    else if c = '\x00' then none
    else some ([], .inQuotes (word ++ [c]))
  | behindQuote word, c =>
    if c = '"' then some ([], .inQuotes (word ++ [c])) else begin? [.quoted word] c
  | inBare word, c => if isBare c then some ([], .inBare (word ++ [c])) else begin? [.bare word] c

/-- The lexemes of the rest of a query. -/
def lexFrom : Reading → List Char → Option (List Lexeme)
  | reading, [] => reading.finish?
  | reading, c :: rest =>
    (reading.next? c).bind fun step => (lexFrom step.2 rest).map (step.1 ++ ·)

/-- The lexemes of a query, unless it is a syntax error. -/
def lexemes? (query : String) : Option (List Lexeme) :=
  lexFrom .between query.toList

/-- The words of lexemes that are words in quotes with `OR` between them. -/
def operands? : List Lexeme → Option (List String)
  | [.quoted word] => some [String.ofList word]
  | .quoted word :: .bare operator :: rest =>
    if operator = ['O', 'R'] then (operands? rest).map (String.ofList word :: ·) else none
  | _ => none

/-- The words of a query that asks for any of them, each in quotes. -/
def words? (query : String) : Option (List String) :=
  (lexemes? query).bind operands?

/-- Words in quotes with `OR` between them. -/
def alternatives (words : List String) : List Lexeme :=
  (words.map fun word => .quoted word.toList).intersperse (.bare ['O', 'R'])

/-! ## Words in quotes -/

theorem lexFrom_cons (reading : Reading) (c : Char) (rest : List Char) :
    lexFrom reading (c :: rest) =
      (reading.next? c).bind fun step => (lexFrom step.2 rest).map (step.1 ++ ·) :=
  rfl

/-- A character that completes nothing only moves the reader on. -/
theorem lexFrom_of_quiet {reading next : Reading} {c : Char}
    (hstep : reading.next? c = some ([], next)) (rest : List Char) :
    lexFrom reading (c :: rest) = lexFrom next rest := by
  rw [lexFrom_cons, hstep, Option.bind_some]
  exact Option.map_id'

/-- An unmarked character is neither a quote nor a blank nor a zero character. -/
theorem ne_of_isUnmarked {c : Char} (hunmarked : Text.IsUnmarked c) :
    c ≠ '"' ∧ c ≠ ' ' ∧ c ≠ '\x00' := by
  refine ⟨?_, ?_, ?_⟩ <;>
  · rintro rfl
    revert hunmarked
    decide

/-- An unmarked word is read up to the quote behind it. -/
theorem lexFrom_word {word : List Char} (hunmarked : ∀ c ∈ word, Text.IsUnmarked c)
    (done rest : List Char) :
    lexFrom (.inQuotes done) (word ++ '"' :: rest) =
      lexFrom (.behindQuote (done ++ word)) rest := by
  induction word generalizing done with
  | nil =>
      have hstep : (Reading.inQuotes done).next? '"' = some ([], .behindQuote done) := rfl
      rw [List.append_nil, List.nil_append, lexFrom_of_quiet hstep]
  | cons c word ih =>
      obtain ⟨hc, hword⟩ := List.forall_mem_cons.mp hunmarked
      obtain ⟨hquote, -, hzero⟩ := ne_of_isUnmarked hc
      have hstep : (Reading.inQuotes done).next? c = some ([], .inQuotes (done ++ [c])) := by
        rw [Reading.next?, if_neg hquote, if_neg hzero]
      rw [List.cons_append, lexFrom_of_quiet hstep, ih hword, List.append_assoc,
        List.singleton_append]

/-- Between two words there is one operator. -/
theorem lexFrom_separator (word rest : List Char) :
    lexFrom (.behindQuote word) (" OR ".toList ++ rest) =
      (lexFrom .between rest).map fun later => .quoted word :: .bare ['O', 'R'] :: later := by
  have hseparator : " OR ".toList = [' ', 'O', 'R', ' '] := rfl
  have hblank : (Reading.behindQuote word).next? ' ' = some ([.quoted word], .between) := rfl
  have hfirst : Reading.between.next? 'O' = some ([], .inBare ['O']) := rfl
  have hsecond : (Reading.inBare ['O']).next? 'R' = some ([], .inBare ['O', 'R']) := rfl
  have hends : (Reading.inBare ['O', 'R']).next? ' ' = some ([.bare ['O', 'R']], .between) := rfl
  simp only [hseparator, List.cons_append, List.nil_append, lexFrom_cons, hblank, hfirst, hsecond,
    hends, Option.bind_some, Option.map_map]
  rfl

theorem lexFrom_alternatives {words : List String} (hne : words ≠ [])
    (hunmarked : ∀ word ∈ words, ∀ c ∈ word.toList, Text.IsUnmarked c) :
    lexFrom .between (" OR ".toList.intercalate (words.map fun word => (quoted word).toList)) =
      some (alternatives words) := by
  have hquoted (word : String) (rest : List Char) :
      (quoted word).toList ++ rest = '"' :: (word.toList ++ '"' :: rest) := by
    simp [quoted]
  have hopen : Reading.between.next? '"' = some ([], .inQuotes []) := rfl
  induction words with
  | nil => exact absurd rfl hne
  | cons word words ih =>
      obtain ⟨hword, hwords⟩ := List.forall_mem_cons.mp hunmarked
      cases words with
      | nil =>
          have hlast := hquoted word []
          rw [List.append_nil] at hlast
          rw [List.map_singleton, List.intercalate_singleton, hlast, lexFrom_of_quiet hopen,
            lexFrom_word hword]
          rfl
      | cons next more =>
          have hlater := ih (List.cons_ne_nil next more) hwords
          rw [List.map_cons] at hlater
          rw [List.map_cons, List.map_cons, List.intercalate_cons_cons, List.append_assoc, hquoted,
            lexFrom_of_quiet hopen, lexFrom_word hword, lexFrom_separator, hlater]
          rfl

theorem operands?_alternatives {words : List String} (hne : words ≠ []) :
    operands? (alternatives words) = some words := by
  induction words with
  | nil => exact absurd rfl hne
  | cons word words ih =>
      cases words with
      | nil => simp [alternatives, operands?]
      | cons next more =>
          have hlater := ih (List.cons_ne_nil next more)
          have hcons : alternatives (word :: next :: more) =
              .quoted word.toList :: .bare ['O', 'R'] :: alternatives (next :: more) := rfl
          rw [hcons, operands?, if_pos rfl, hlater, String.ofList_toList]
          rfl

/-! ## The query of a text -/

/-- The words of runs of letters and numbers: those of at least two characters, in small letters. -/
def wordsOfRuns (runs : List (List Char)) : List String :=
  (runs.filter fun run => 2 ≤ run.length).map fun run => Text.toLowercase (String.ofList run)

theorem terms_eq (text : String) :
    terms text = wordsOfRuns (Text.runs Text.isAlphanumeric text.toList) :=
  rfl

/-- A word of a text that can be searched for. -/
def IsTerm (text term : String) : Prop :=
  ∃ found, Text.IsRuns Text.isAlphanumeric text.toList found ∧ term ∈ wordsOfRuns found

theorem mem_terms_iff (text term : String) : term ∈ terms text ↔ IsTerm text term := by
  rw [terms_eq]
  constructor
  · exact fun hmem => ⟨_, Text.isRuns_runs _ _, hmem⟩
  · rintro ⟨found, hfound, hmem⟩
    rwa [Text.runs_eq_iff.mpr hfound]

theorem terms_unmarked (text : String) :
    ∀ word ∈ terms text, ∀ c ∈ word.toList, Text.IsUnmarked c := by
  rw [terms_eq, wordsOfRuns]
  refine List.forall_mem_map.mpr fun run hrun => Text.toLowercase_isUnmarked fun c hc => ?_
  rw [String.toList_ofList] at hc
  have hfound := Text.isRuns_runs Text.isAlphanumeric text.toList
  have hletter := (hfound.mem (List.mem_filter.mp hrun).1).2 c hc
  exact Text.isUnmarked_of_isAlphanumeric hletter

theorem ofText?_eq_none_iff (text : String) : ofText? text = none ↔ terms text = [] := by
  rw [ofText?, ← List.isEmpty_iff]
  split <;> simp [*]

theorem ofText?_eq_some {text query : String} (hquery : ofText? text = some query) :
    terms text ≠ [] ∧ query = String.intercalate " OR " ((terms text).map quoted) := by
  rw [ofText?] at hquery
  split at hquery
  · cases hquery
  · next hterms =>
      rw [List.isEmpty_iff] at hterms
      exact ⟨hterms, (Option.some.inj hquery).symm⟩

theorem lexemes?_ofText {text query : String} (hquery : ofText? text = some query) :
    lexemes? query = some (alternatives (terms text)) := by
  obtain ⟨hterms, rfl⟩ := ofText?_eq_some hquery
  rw [lexemes?, String.toList_intercalate, List.map_map]
  exact lexFrom_alternatives hterms (terms_unmarked text)

theorem words?_ofText {text query : String} (hquery : ofText? text = some query) :
    words? query = some (terms text) := by
  rw [words?, lexemes?_ofText hquery, Option.bind_some,
    operands?_alternatives (ofText?_eq_some hquery).1]

/-- **Nothing of a text is read as anything but a word in quotes.**  A text has one list of maximal
runs of letters and numbers; its words are those of at least two characters, in small letters.
There is a query exactly if there is a word.  It is the words in quotes with `OR` between them, and
that is also what it is read as: the words come back, and no other operator, mark or word stands
outside of the quotes.  No word holds a quote or a blank, nor any other mark.  These words are what
the index is searched for. -/
theorem ofText?_quotes_words (text : String) :
    ∃ found, (∀ other, Text.IsRuns Text.isAlphanumeric text.toList other ↔ other = found) ∧
      (ofText? text = none ↔ wordsOfRuns found = []) ∧
      (∀ query, ofText? text = some query →
        query = String.intercalate " OR " ((wordsOfRuns found).map quoted) ∧
          lexemes? query = some (alternatives (wordsOfRuns found)) ∧
          words? query = some (wordsOfRuns found)) ∧
      (∀ word ∈ wordsOfRuns found,
        '"' ∉ word.toList ∧ ' ' ∉ word.toList ∧ ∀ c ∈ word.toList, Text.IsUnmarked c) ∧
      phrasesOf text = (((ofText? text).bind words?).getD []).map Text.indexTokens := by
  refine ⟨Text.runs Text.isAlphanumeric text.toList, ?_, ofText?_eq_none_iff text, ?_, ?_, ?_⟩
  · intro other
    rw [← Text.runs_eq_iff, eq_comm]
  · intro query hquery
    exact ⟨(ofText?_eq_some hquery).2, lexemes?_ofText hquery, words?_ofText hquery⟩
  · intro word hword
    have hunmarked := terms_unmarked text word hword
    exact ⟨fun hmem => (ne_of_isUnmarked (hunmarked _ hmem)).1 rfl,
      fun hmem => (ne_of_isUnmarked (hunmarked _ hmem)).2.1 rfl, hunmarked⟩
  · cases hquery : ofText? text with
    | none => rw [phrasesOf, (ofText?_eq_none_iff text).mp hquery]; rfl
    | some query => rw [Option.bind_some, words?_ofText hquery]; rfl

/-- Operators, a group, a quote and a wildcard leave two words. -/
example : ofText? "NEAR(a b) OR \"x\" *" = some "\"near\" OR \"or\"" := by
  decide +kernel

end ToolAssistant.IndexQuery
