import ToolAssistant.Proofs.Text.Blank
import ToolAssistant.Proofs.Text.Lowercase
import ToolAssistant.Tool.TextAnalysis

/-!
# Reports on texts add up

A report counts the words and characters of a text and tells its mood.  Two texts with a blank
between them have the words of both, and their scores are added.  Only the words make the mood: it
does not matter in what order they stand, how much space is between them, in what case their ASCII
letters are, or what marks surround them (`analyze_adds_up`).

## Strategy

How many words a report counts and what mood it tells depends on the bare words of the text, in
whatever order (`analyze_of_perm`), and each of these changes keeps the bare words or puts them in
another order (`Varies.perm_bareWords`).

What a keyword is, `IsKeyword` says without bare words: some text in the word with nothing but marks
around it, which is a keyword but for the case of ASCII letters.  That no other letters come in is
read off the keywords: a capital beyond ASCII has a small letter beyond ASCII or is the Kelvin sign,
and no keyword holds a `k`.
-/

namespace ToolAssistant.TextAnalysis

open Text (IsRuns isBlank isAlphanumeric)

/-! ## Bare words -/

theorem bareWord_toLower (word : String) : bareWord word.toLower = bareWord word := by
  have hclass (c : Char) : (!isAlphanumeric c.toLower) = !isAlphanumeric c := by
    rw [Text.isAlphanumeric_toLower]
  rw [bareWord, Text.toList_toLower, Text.stripWhile_map hclass, ← Text.toLower_ofList,
    Text.toLowercase_toLower, bareWord]

/-- Marks around a word are not part of its bare word. -/
theorem bareWord_marked {before after : List Char}
    (hmarks : ∀ c ∈ before ++ after, isAlphanumeric c = false) (word : List Char) :
    bareWord (String.ofList (before ++ word ++ after)) = bareWord (String.ofList word) := by
  have hends : ∀ c ∈ before ++ after, (!isAlphanumeric c) = true := fun c hc => by
    rw [hmarks c hc, Bool.not_false]
  rw [bareWord, String.toList_ofList, Text.stripWhile_append hends, bareWord, String.toList_ofList]

/-! ## Keywords -/

/-- The word is a keyword, in whatever case and with whatever marks around it. -/
def IsKeyword (keywords : List String) (word : String) : Prop :=
  ∃ before core after, word.toList = before ++ core ++ after ∧
    (∀ c ∈ before ++ after, isAlphanumeric c = false) ∧
    String.ofList (core.map Char.toLower) ∈ keywords

/-- The keyword is in small ASCII letters.  The `k` is left out, since it is also what the Kelvin
sign turns into. -/
def IsPlain (keyword : String) : Prop :=
  ∀ c ∈ keyword.toList, c.isLower = true ∧ c ≠ 'k'

instance (keyword : String) : Decidable (IsPlain keyword) :=
  decidable_of_iff (keyword.toList.all fun c => decide (c.isLower = true ∧ c ≠ 'k'))
    List.all_iff_forall_prop

theorem positiveWords_plain : ∀ keyword ∈ positiveWords, IsPlain keyword := by
  decide

theorem negativeWords_plain : ∀ keyword ∈ negativeWords, IsPlain keyword := by
  decide

theorem IsPlain.ascii {keyword : String} (hplain : IsPlain keyword) :
    ∀ c ∈ keyword.toList, c.toNat < 0x80 ∧ c ≠ 'k' := by
  intro c hc
  have := Text.toNat_of_isLower (hplain c hc).1
  exact ⟨by omega, (hplain c hc).2⟩

theorem IsPlain.toLower_eq {keyword : String} (hplain : IsPlain keyword) :
    keyword.toLower = keyword := by
  rw [← String.toList_inj, Text.toList_toLower]
  refine (List.map_congr_left fun c hc => ?_).trans (List.map_id _)
  refine Char.toLower_eq_of_not_isUpper fun hupper => ?_
  have := Text.toNat_of_isUpper hupper
  have := Text.toNat_of_isLower (hplain c hc).1
  omega

/-- A plain keyword is its own bare word. -/
theorem IsPlain.bareWord_eq {keyword : String} (hplain : IsPlain keyword) :
    bareWord keyword = keyword := by
  have hletters : ∀ c ∈ keyword.toList, (!isAlphanumeric c) = false := fun c hc => by
    have hascii := (hplain.ascii c hc).1
    have hlower := (hplain c hc).1
    simp [isAlphanumeric, Text.isAlphabetic, hascii, Char.isAlpha, hlower]
  rw [bareWord, Text.stripWhile_eq_self hletters, String.ofList_toList,
    Text.toLowercase_ascii fun c hc => (hplain.ascii c hc).1, hplain.toLower_eq]

/-- **Keywords are those words whose bare word is one.** -/
theorem isKeyword_iff {keywords : List String} (hplain : ∀ keyword ∈ keywords, IsPlain keyword)
    (word : String) : IsKeyword keywords word ↔ bareWord word ∈ keywords := by
  constructor
  · rintro ⟨before, core, after, hword, hmarks, hcore⟩
    have hbare : bareWord word = String.ofList (core.map Char.toLower) := by
      rw [← String.ofList_toList (s := word), hword, bareWord_marked hmarks, ← bareWord_toLower,
        Text.toLower_ofList, (hplain _ hcore).bareWord_eq]
    rwa [hbare]
  · intro hbare
    obtain ⟨before, after, hword, hmarks⟩ :=
      Text.exists_strip (fun c => !isAlphanumeric c) word.toList
    refine ⟨before, _, after, hword, fun c hc => by simpa using hmarks c hc, ?_⟩
    rwa [← Text.toLower_ofList, ← Text.toLowercase_into_ascii (hplain _ hbare).ascii]

instance (word : String) : Decidable (IsKeyword positiveWords word) :=
  decidable_of_iff _ (isKeyword_iff positiveWords_plain word).symm

instance (word : String) : Decidable (IsKeyword negativeWords word) :=
  decidable_of_iff _ (isKeyword_iff negativeWords_plain word).symm

/-- Quotes and a full stop do not hide a keyword, but a longer word does. -/
example : IsKeyword negativeWords "\"Terrible.\"" ∧ ¬IsKeyword positiveWords "goodness" := by
  decide +kernel

/-! ## Scores -/

/-- What words score together: those that speak well of something against those that speak ill. -/
def score (words : List String) : ℤ :=
  words.countP (IsKeyword positiveWords ·) - words.countP (IsKeyword negativeWords ·)

theorem countP_isKeyword {keywords : List String} [DecidablePred (IsKeyword keywords)]
    (hplain : ∀ keyword ∈ keywords, IsPlain keyword) (words : List String) :
    words.countP (IsKeyword keywords ·) = (words.map bareWord).countP (· ∈ keywords) := by
  rw [List.countP_map]
  refine List.countP_congr fun word _ => ?_
  simpa using isKeyword_iff hplain word

/-- A score depends on the bare words, in whatever order. -/
theorem score_of_perm {words others : List String}
    (hperm : (words.map bareWord).Perm (others.map bareWord)) : score words = score others := by
  have hpositive := hperm.countP_eq (· ∈ positiveWords)
  have hnegative := hperm.countP_eq (· ∈ negativeWords)
  simp only [score, countP_isKeyword positiveWords_plain, countP_isKeyword negativeWords_plain,
    hpositive, hnegative]

theorem score_append (words others : List String) :
    score (words ++ others) = score words + score others := by
  simp only [score, List.countP_append, Nat.cast_add]
  omega

theorem wordScore_eq (word : String) :
    wordScore word = (if IsKeyword positiveWords word then 1 else 0) -
      (if IsKeyword negativeWords word then 1 else 0) := by
  have hapart : ∀ keyword ∈ positiveWords, keyword ∉ negativeWords := by decide
  simp only [wordScore, isKeyword_iff positiveWords_plain, isKeyword_iff negativeWords_plain,
    List.contains_iff_mem]
  by_cases hpositive : bareWord word ∈ positiveWords
  · simp [hpositive, hapart _ hpositive]
  · by_cases hnegative : bareWord word ∈ negativeWords <;> simp [hpositive, hnegative]

theorem sum_wordScore (words : List String) :
    (words.map wordScore).foldr (· + ·) 0 = score words := by
  induction words with
  | nil => rfl
  | cons word words ih =>
      rw [List.map_cons, List.foldr_cons, ih, wordScore_eq]
      simp only [score, List.countP_cons, decide_eq_true_eq]
      split <;> split <;> push_cast <;> omega

/-! ## Moods -/

/-- The sign that a sentiment gives a text. -/
def Sentiment.sign : Sentiment → SignType
  | positive => .pos
  | negative => .neg
  | neutral => .zero

theorem Sentiment.sign_ofScore (n : ℤ) : (Sentiment.ofScore n).sign = SignType.sign n := by
  rw [ofScore]
  split
  · next hpositive => exact (sign_pos hpositive).symm
  · split
    · next hnegative => exact (sign_neg hnegative).symm
    · next hpositive hnegative =>
        obtain rfl : n = 0 := by omega
        rw [sign_zero]
        rfl

theorem sign_sentiment (text : String) :
    (analyze text).sentiment.sign = SignType.sign (score (Text.words text)) := by
  rw [← sum_wordScore, ← Sentiment.sign_ofScore]
  rfl

theorem Sentiment.sign_injective : Function.Injective Sentiment.sign := by
  intro first second
  cases first <;> cases second <;> decide

/-! ## Changes that keep the words -/

theorem words_toLower (text : String) :
    Text.words text.toLower = (Text.words text).map String.toLower := by
  have hclass (c : Char) : (!isBlank c.toLower) = !isBlank c := by rw [Text.isBlank_toLower]
  have hruns := (Text.isRuns_runs (fun c => !isBlank c) text.toList).map hclass
  rw [← Text.toList_toLower] at hruns
  rw [Text.words_of_isRuns hruns, Text.words, List.map_map, List.map_map]
  exact List.map_congr_left fun run _ => (Text.toLower_ofList run).symm

/-- The bare words of a text. -/
def bareWords (text : String) : List String :=
  (Text.words text).map bareWord

theorem bareWords_toLower (text : String) : bareWords text.toLower = bareWords text := by
  rw [bareWords, words_toLower, List.map_map, bareWords]
  exact List.map_congr_left fun word _ => bareWord_toLower word

/-- A change that leaves the words of a text what they are: they are put in another order or have
other space around them, ASCII letters are put in another case, or a word gets marks at its ends. -/
inductive Varies : String → String → Prop where
  | rearranged {text changed : String} {words others : List (List Char)}
      (hwords : IsRuns (fun c => !isBlank c) text.toList words)
      (hothers : IsRuns (fun c => !isBlank c) changed.toList others) (hperm : words.Perm others) :
      Varies text changed
  -- `String.toLower` knows only the ASCII letters.
  | recased {text changed : String} (hcase : text.toLower = changed.toLower) : Varies text changed
  | marked {front before word after back : List Char} (hne : word ≠ [])
      (hword : ∀ c ∈ word, isBlank c = false)
      (hfront : ∀ last ∈ front.getLast?, isBlank last = true)
      (hback : ∀ next ∈ back.head?, isBlank next = true)
      (hmarks : ∀ c ∈ before ++ after, isAlphanumeric c = false ∧ isBlank c = false) :
      Varies (String.ofList (front ++ word ++ back))
        (String.ofList (front ++ (before ++ word ++ after) ++ back))

theorem Varies.perm_bareWords {text changed : String} (hvaries : Varies text changed) :
    (bareWords text).Perm (bareWords changed) := by
  cases hvaries with
  | rearranged hwords hothers hperm =>
      rw [bareWords, bareWords, Text.words_of_isRuns hwords, Text.words_of_isRuns hothers]
      exact (hperm.map _).map _
  | recased hcase => rw [← bareWords_toLower text, hcase, bareWords_toLower]
  | @marked front before word after back hne hword hfront hback hmarks =>
      have hsolid : ∀ c ∈ before ++ word ++ after, isBlank c = false := by
        intro c hc
        simp only [List.mem_append] at hc hmarks
        rcases hc with (hc | hc) | hc
        · exact (hmarks c (Or.inl hc)).2
        · exact hword c hc
        · exact (hmarks c (Or.inr hc)).2
      have hne' : before ++ word ++ after ≠ [] := by simp [hne]
      rw [bareWords, bareWords, Text.words_around hne hword hfront hback,
        Text.words_around hne' hsolid hfront hback, List.map_append, List.map_append, List.map_cons,
        List.map_cons, bareWord_marked fun c hc => (hmarks c hc).1]

/-! ## Reports -/

/-- What a report says of the words of a text depends on its bare words, in whatever order. -/
theorem analyze_of_perm {text changed : String}
    (hperm : (bareWords text).Perm (bareWords changed)) :
    (analyze changed).wordCount = (analyze text).wordCount ∧
      (analyze changed).sentiment = (analyze text).sentiment := by
  constructor
  · have hlength := hperm.length_eq
    rw [bareWords, bareWords, List.length_map, List.length_map] at hlength
    exact hlength.symm
  · apply Sentiment.sign_injective
    rw [sign_sentiment, sign_sentiment, score_of_perm hperm]

theorem analyze_of_changes {text changed : String}
    (hchanges : Relation.ReflTransGen Varies text changed) :
    (analyze changed).wordCount = (analyze text).wordCount ∧
      (analyze changed).sentiment = (analyze text).sentiment := by
  apply analyze_of_perm
  induction hchanges with
  | refl => exact .refl _
  | tail _ hvaries ih => exact ih.trans hvaries.perm_bareWords

theorem analyze_of_isRuns {text : String} {found : List (List Char)}
    (hruns : IsRuns (fun c => !isBlank c) text.toList found) :
    (analyze text).wordCount = found.length ∧
      (analyze text).characterCount = text.toList.length ∧
      (analyze text).sentiment.sign = SignType.sign (score (found.map String.ofList)) := by
  have hwords := Text.words_of_isRuns hruns
  refine ⟨?_, String.length_toList.symm, ?_⟩
  · show (Text.words text).length = found.length
    rw [hwords, List.length_map]
  · rw [sign_sentiment, hwords]

theorem analyze_append_blank (first second : String) {blank : Char}
    (hblank : isBlank blank = true) :
    (analyze (first ++ String.singleton blank ++ second)).wordCount =
        (analyze first).wordCount + (analyze second).wordCount ∧
      (analyze (first ++ String.singleton blank ++ second)).characterCount =
        (analyze first).characterCount + (analyze second).characterCount + 1 ∧
      (analyze (first ++ String.singleton blank ++ second)).sentiment.sign =
        SignType.sign (score (Text.words first) + score (Text.words second)) := by
  have hwords := Text.words_append_blank first second hblank
  refine ⟨?_, ?_, ?_⟩
  · show (Text.words _).length = (Text.words first).length + (Text.words second).length
    rw [hwords, List.length_append]
  · show String.length _ = first.length + second.length + 1
    rw [String.length_append, String.length_append, String.length_singleton]
    omega
  · rw [sign_sentiment, hwords, score_append]

/-- **Reports add up, and only the words make the mood.**  A report says how many runs of characters
that are not blank a text has, how many characters, and on which side of zero its words score.  Of
two texts with a blank between them the words and the characters are those of both, and the scores
are added.  However often a text is changed in ways that keep its words, neither their number nor
the mood changes. -/
theorem analyze_adds_up :
    (∀ text found, IsRuns (fun c => !isBlank c) text.toList found →
      (analyze text).wordCount = found.length ∧
        (analyze text).characterCount = text.toList.length ∧
        (analyze text).sentiment.sign = SignType.sign (score (found.map String.ofList))) ∧
      (∀ first second blank, isBlank blank = true →
        (analyze (first ++ String.singleton blank ++ second)).wordCount =
            (analyze first).wordCount + (analyze second).wordCount ∧
          (analyze (first ++ String.singleton blank ++ second)).characterCount =
            (analyze first).characterCount + (analyze second).characterCount + 1 ∧
          (analyze (first ++ String.singleton blank ++ second)).sentiment.sign =
            SignType.sign (score (Text.words first) + score (Text.words second))) ∧
      ∀ text changed, Relation.ReflTransGen Varies text changed →
        (analyze changed).wordCount = (analyze text).wordCount ∧
          (analyze changed).sentiment = (analyze text).sentiment := by
  refine ⟨?_, ?_, ?_⟩
  · intro text found hruns
    exact analyze_of_isRuns hruns
  · intro first second blank hblank
    exact analyze_append_blank first second hblank
  · intro text changed hchanges
    exact analyze_of_changes hchanges

/-- A sad text with a happy one behind it, and with its words marked, in capitals and exchanged. -/
theorem analyze_adds_up_gloomy :
    IsRuns (fun c => !isBlank c) "sad day".toList ["sad".toList, "day".toList] ∧
      (analyze "sad day").wordCount = 2 ∧ isBlank '\u3000' = true ∧
      (analyze ("sad day" ++ String.singleton '\u3000' ++ "but great fun")).wordCount = 5 ∧
      (analyze ("sad day" ++ String.singleton '\u3000' ++ "but great fun")).characterCount = 21 ∧
      (analyze ("sad day" ++ String.singleton '\u3000' ++ "but great fun")).sentiment = .neutral ∧
      Relation.ReflTransGen Varies "sad day" " dAY\t(SAD!" ∧
      (analyze " dAY\t(SAD!").wordCount = 2 ∧ (analyze " dAY\t(SAD!").sentiment = .negative := by
  obtain ⟨hcounts, hadds, hkeeps⟩ := analyze_adds_up
  have hsad : analyze "sad day" = ⟨2, 7, .negative⟩ := by decide +kernel
  have hgreat : analyze "but great fun" = ⟨3, 13, .positive⟩ := by decide +kernel
  have hruns : IsRuns (fun c => !isBlank c) "sad day".toList ["sad".toList, "day".toList] :=
    Text.runs_eq_iff.mp (by decide +kernel)
  have hblank : isBlank '\u3000' = true := by decide
  have hscores : score (Text.words "sad day") + score (Text.words "but great fun") = 0 := by
    decide +kernel
  obtain ⟨hwords, hcharacters, hmood⟩ := hadds "sad day" "but great fun" '\u3000' hblank
  rw [hsad, hgreat] at hwords hcharacters
  rw [hscores, sign_zero] at hmood
  have hmarked : Varies (String.ofList ([] ++ ['s', 'a', 'd'] ++ [' ', 'd', 'a', 'y']))
      (String.ofList ([] ++ (['('] ++ ['s', 'a', 'd'] ++ ['!']) ++ [' ', 'd', 'a', 'y'])) := by
    refine .marked (by decide) (List.all_iff_forall_prop.mp (by decide)) ?_ ?_
      (List.all_iff_forall_prop.mp (by decide +kernel))
    · exact fun last hlast => nomatch hlast
    · intro next hnext
      obtain rfl : ' ' = next := Option.some.inj hnext
      decide
  have hrecased : Varies "(sad! day" "(SAD! dAY" := by
    refine .recased (String.toList_inj.mp ?_)
    rw [Text.toList_toLower, Text.toList_toLower]
    decide
  have hrearranged : Varies "(SAD! dAY" " dAY\t(SAD!" :=
    .rearranged (Text.isRuns_runs _ _) (Text.isRuns_runs _ _) (by decide +kernel)
  have hchanges : Relation.ReflTransGen Varies "sad day" " dAY\t(SAD!" :=
    .tail (.tail (.single hmarked) hrecased) hrearranged
  have hkept := hkeeps "sad day" " dAY\t(SAD!" hchanges
  rw [hsad] at hkept
  exact ⟨hruns, (hcounts "sad day" _ hruns).1, hblank, hwords, hcharacters,
    Sentiment.sign_injective hmood, hchanges, hkept⟩

end ToolAssistant.TextAnalysis
