import ToolAssistant.Text.Blank
import ToolAssistant.Text.Word

/-!
# Scrubbing secrets

What may echo a request or a header is scrubbed before anyone sees it.  Four patterns are replaced
one after another over the whole text: API keys of a known shape, query parameters that carry keys,
and the credentials of two authorization schemes.

## Strategy

A pattern looks at the text from one position on, knowing the character before it, and says how much
it matches and what stands for it.  `replaceAll` walks the text and replaces the leftmost matches
that do not overlap.
-/

namespace ToolAssistant.Text

/-- A match: what replaces it, and its length in characters. -/
structure Match where
  replacement : List Char
  length : Nat

/-- A pattern, given the character before the position and the text from there on. -/
abbrev Pattern := Option Char → List Char → Option Match

/-- Replaces the matches of a pattern from left to right; the first `skip` characters belong to the
match before them. -/
def replaceFrom (pattern : Pattern) (before : Option Char) (skip : Nat) : List Char → List Char
  | [] => []
  | c :: rest =>
    match skip with
    | skip + 1 => replaceFrom pattern (some c) skip rest
    | 0 =>
      match pattern before (c :: rest) with
      | some found => found.replacement ++ replaceFrom pattern (some c) (found.length - 1) rest
      | none => c :: replaceFrom pattern (some c) 0 rest

/-- Replaces all matches of a pattern. -/
def replaceAll (pattern : Pattern) (cs : List Char) : List Char :=
  replaceFrom pattern none 0 cs

/-- What stands for a secret. -/
def redacted : String := "[REDACTED]"

/-- The rest of a text after a fixed beginning. -/
def afterPrefix? : List Char → List Char → Option (List Char)
  | [], cs => some cs
  | e :: expected, c :: cs => if e = c then afterPrefix? expected cs else none
  | _ :: _, [] => none

/-- The characters of an API key. -/
def isKeyCharacter (c : Char) : Bool :=
  c.isAlphanum || c == '-' || c == '_'

/-- An API key: `AIza` and 35 key characters. -/
def apiKeyPattern : Pattern := fun _ cs => do
  let body := (← afterPrefix? "AIza".toList cs).take 35
  if body.length = 35 ∧ body.all isKeyCharacter then some ⟨redacted.toList, 39⟩ else none

/-- Is the character the given small letter in some case?  The Kelvin sign counts as a K. -/
def isLetterOf (letter c : Char) : Bool :=
  c.toLower == letter || (letter == 'k' && c == '\u212a')

/-- The beginning of a text that spells a word in any case, if it does. -/
def spelled? (word : List Char) (cs : List Char) : Option (List Char) :=
  let here := cs.take word.length
  if here.length = word.length ∧ (List.zipWith isLetterOf word here).all id then some here else none

/-- The names of query parameters that carry keys. -/
def keyParameters : List String := ["appid", "api_key", "key"]

/-- A key parameter at the start of a word, an equals sign, and the value up to an ampersand, a
blank or a quote.  The name is kept. -/
def parameterPattern : Pattern := fun before cs => do
  if before.any isWordCharacter then none
  else
    let name ← keyParameters.findSome? fun word => do
      let here ← spelled? word.toList cs
      if (cs.drop here.length).head? = some '=' then some here else none
    let value := (cs.drop (name.length + 1)).takeWhile fun c => c != '&' && c != '\'' && !isBlank c
    if value.isEmpty then none
    else some ⟨name ++ '=' :: redacted.toList, name.length + 1 + value.length⟩

/-- An authorization scheme, blanks, and at least 16 characters that are neither blanks nor
quotes. -/
def credentialPattern (scheme : String) : Pattern := fun _ cs => do
  let rest ← afterPrefix? scheme.toList cs
  let blanks := rest.takeWhile isBlank
  let value := (rest.drop blanks.length).takeWhile fun c => c != '\'' && !isBlank c
  if blanks.isEmpty ∨ value.length < 16 then none
  else
    some ⟨scheme.toList ++ ' ' :: redacted.toList, scheme.length + blanks.length + value.length⟩

/-- The patterns, in the order in which they are replaced. -/
def secretPatterns : List Pattern :=
  [apiKeyPattern, parameterPattern, credentialPattern "Bearer", credentialPattern "Token"]

/-- Replaces whatever looks like a secret. -/
def scrub (text : String) : String :=
  String.ofList (secretPatterns.foldl (fun cs pattern => replaceAll pattern cs) text.toList)

end ToolAssistant.Text
