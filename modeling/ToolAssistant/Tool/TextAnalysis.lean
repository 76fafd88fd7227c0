import ToolAssistant.Text.Blank
import ToolAssistant.Text.Lowercase
import ToolAssistant.Text.Numeric
import ToolAssistant.Tool.Basic

/-!
# Text analysis

Counts words and characters and labels the sentiment.  A word scores when it is a keyword, whatever
its case and the punctuation around it.
-/

namespace ToolAssistant.TextAnalysis

/-- Words that speak well of something. -/
def positiveWords : List String := ["good", "great", "excellent", "happy", "love"]

/-- Words that speak ill of something. -/
def negativeWords : List String := ["bad", "poor", "sad", "hate", "terrible"]

/-- The general mood of a text. -/
inductive Sentiment where
  | positive
  | negative
  | neutral
  deriving DecidableEq, Repr

/-- The name of a sentiment. -/
def Sentiment.name : Sentiment → String
  | positive => "Positive"
  | negative => "Negative"
  | neutral => "Neutral"

/-- The sentiment of a score. -/
def Sentiment.ofScore (score : Int) : Sentiment :=
  if score > 0 then .positive else if score < 0 then .negative else .neutral

/-- A word as it is compared with the keywords. -/
def bareWord (word : String) : String :=
  Text.toLowercase (String.ofList (Text.stripWhile (fun c => !Text.isAlphanumeric c) word.toList))

/-- What a word adds to the score. -/
def wordScore (word : String) : Int :=
  if positiveWords.contains (bareWord word) then 1
  else if negativeWords.contains (bareWord word) then -1
  else 0

/-- What is found out about a text. -/
structure Report where
  wordCount : Nat
  characterCount : Nat
  sentiment : Sentiment
  deriving DecidableEq, Repr

/-- Analyses a text. -/
def analyze (text : String) : Report :=
  let words := Text.words text
  { wordCount := words.length
    characterCount := text.length
    sentiment := .ofScore ((words.map wordScore).foldr (· + ·) 0) }

/-- A report as data. -/
def Report.toJson (report : Report) : Json :=
  .ofFields
    [("word_count", .ofNat report.wordCount), ("character_count", .ofNat report.characterCount),
      ("sentiment", .string report.sentiment.name)]

/-- The tool that analyses texts. -/
def tool {σ : Type} : Tool σ :=
  .ofFunction
    { name := "analyze_text"
      description :=
        "Count words and characters in a text and classify its sentiment as Positive, " ++
          "Negative or Neutral."
      schema := Schema.empty.required "text" .string "Text to analyze" }
    fun args => return (analyze (← args.string "text")).toJson

end ToolAssistant.TextAnalysis
